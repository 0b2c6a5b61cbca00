import FisheryRules.Proofs.Condition.SegmentText

/-!
# The marks of segments

Segments put a row of marks into a condition: comparisons, brackets around groups of them, and
connectives. What a row of marks means is said by a grammar, in which a conjunction binds tighter
than a disjunction. The text of segments is scanned as their marks, and marks that can be written
mean something.
-/
namespace FisheryRules

open Text

/-- What segments put into a condition. -/
inductive Mark
  | opening
  | closing
  | comparison (segment : Segment)
  | and
  | or

namespace Segment

/-- The connective between a segment and others after it. -/
def joint (segment : Segment) (others : List Segment) : List Mark :=
  if others.isEmpty then []
  else
    match segment.logicOperator with
    | .and => [.and]
    | .or => [.or]
    | .none => []

/-- The marks of segments, one segment after the other. -/
def marks : List Segment → List Mark
  | [] => []
  | segment :: others =>
    List.replicate (trim segment.startOperator.toList).length Mark.opening
      ++ Mark.comparison segment
      :: List.replicate (trim segment.endOperator.toList).length Mark.closing
      ++ segment.joint others ++ marks others

end Segment

/-! ## Marks as tokens -/

/-- The tokens of a comparison. -/
def Segment.tokens (segment : Segment) : List Token :=
  match CustomRule.factType.fieldFor? segment.subCriteria with
  | some field => [.word field.name, .compare segment.condition, segment.operand field]
  | none => []

/-- The tokens of a mark. -/
def Mark.tokens : Mark → List Token
  | opening => [.openParen]
  | closing => [.closeParen]
  | comparison segment => segment.tokens
  | and => [.and]
  | or => [.or]

namespace Segment

variable {segment : Segment} {others : List Segment} {depth : Nat} {cs rest : List Char}
  {tokens : List Token}

open Token

/-- A comparison is scanned before a text that cannot continue a number. -/
theorem scans_comparison (h : segment.comparison = .ok cs) (hrest : Scans rest tokens)
    (hstop : StopsAt continuesNumber rest) : Scans (cs ++ rest) (segment.tokens ++ tokens) := by
  obtain ⟨-, field, literal, hfield, hliteral, rfl⟩ := comparison_eq_ok.1 h
  have hname := spellable_of_fieldFor? hfield
  have hoperand : Scans (literal ++ rest) (segment.operand field :: tokens) := by
    obtain ⟨value, rfl, hvalue, htoken⟩ | ⟨rfl, htoken⟩ := literal_eq_ok hname.notBool hliteral
    · exact htoken ▸ hrest.number hvalue hstop
    · simpa [htoken] using hrest.text segment.value.toList
  have hcompare : Scans (segment.condition.symbol.toList ++ ' ' :: (literal ++ rest))
      (.compare segment.condition :: segment.operand field :: tokens) :=
    (hoperand.blank (by decide)).compare _ (by simp [StopsAt])
  obtain ⟨c, tail, hspelled⟩ := List.exists_cons_of_ne_nil hname.ne_nil
  have hword : Scans (field.name.toList ++ ' ' ::
      (segment.condition.symbol.toList ++ ' ' :: (literal ++ rest)))
      (.word field.name :: .compare segment.condition :: segment.operand field :: tokens) := by
    have hstart := hname.start
    have htail := hname.tail
    have hof := hname.word
    rw [hspelled] at hstart htail hof ⊢
    rw [← hof]
    exact (hcompare.blank (by decide)).word (hstart c rfl) htail
      (fun c hc => by obtain rfl := Option.some.inj hc; decide +kernel)
  simpa [Segment.tokens, hfield] using hword

theorem scans_openings (count : Nat) (h : Scans rest tokens) :
    Scans (List.replicate count '(' ++ rest)
      ((List.replicate count Mark.opening).flatMap Mark.tokens ++ tokens) := by
  induction count with
  | zero => exact h
  | succ count ih => simpa [List.replicate_succ, Mark.tokens] using ih.openParen

theorem scans_closings (count : Nat) (h : Scans rest tokens) :
    Scans (List.replicate count ')' ++ rest)
      ((List.replicate count Mark.closing).flatMap Mark.tokens ++ tokens) := by
  induction count with
  | zero => exact h
  | succ count ih => simpa [List.replicate_succ, Mark.tokens] using ih.closeParen

theorem stopsAt_closings (count : Nat) (h : StopsAt continuesNumber rest) :
    StopsAt continuesNumber (List.replicate count ')' ++ rest) := by
  cases count with
  | zero => exact h
  | succ count => simp [List.replicate_succ, StopsAt, continuesNumber]

/-- What joins a segment to the others is scanned as the connective, and it continues no number. -/
theorem scans_joint {joint : List Char} (hjoint : segment.jointChars others = .ok joint)
    (hrest : chars depth others = .ok rest) (h : Scans rest tokens) :
    Scans (joint ++ rest) ((segment.joint others).flatMap Mark.tokens ++ tokens) ∧
      StopsAt continuesNumber (joint ++ rest) := by
  obtain ⟨rfl, rfl⟩ | ⟨hothers, ⟨hop, rfl⟩ | ⟨hop, rfl⟩⟩ := jointChars_eq_ok.1 hjoint
  · obtain ⟨-, rfl⟩ := chars_nil_eq_ok.1 hrest
    exact ⟨h, by simp [StopsAt]⟩
  · have hscan : Scans (' ' :: '&' :: '&' :: ' ' :: rest) (.and :: tokens) :=
      ((h.blank (by decide)).and).blank (by decide)
    have hstop : StopsAt continuesNumber (' ' :: '&' :: '&' :: ' ' :: rest) := by
      simp [StopsAt, continuesNumber]
    simpa [joint, hothers, hop, Mark.tokens] using ⟨hscan, hstop⟩
  · have hscan : Scans (' ' :: '|' :: '|' :: ' ' :: rest) (.or :: tokens) :=
      ((h.blank (by decide)).or).blank (by decide)
    have hstop : StopsAt continuesNumber (' ' :: '|' :: '|' :: ' ' :: rest) := by
      simp [StopsAt, continuesNumber]
    simpa [joint, hothers, hop, Mark.tokens] using ⟨hscan, hstop⟩

/-- The text of segments is scanned as their marks. -/
theorem scans_marks {segments : List Segment} (h : chars depth segments = .ok cs) :
    Scans cs ((marks segments).flatMap Mark.tokens) := by
  induction segments generalizing depth cs with
  | nil =>
    obtain ⟨-, rfl⟩ := chars_nil_eq_ok.1 h
    exact scans_nil
  | cons segment others ih =>
    obtain ⟨opening, closing, comparison, joint, rest, hopening, hclosing, -, hcomparison, -,
      hjoint, hrest, rfl⟩ := chars_cons_eq_ok.1 h
    obtain ⟨-, rfl⟩ := groups_eq_ok.1 hopening
    obtain ⟨-, rfl⟩ := groups_eq_ok.1 hclosing
    obtain ⟨hscan, hstop⟩ := scans_joint hjoint hrest (ih hrest)
    have hclosings := scans_closings (trim segment.endOperator.toList).length hscan
    have hall := scans_openings (trim segment.startOperator.toList).length
      (scans_comparison hcomparison hclosings (stopsAt_closings _ hstop))
    simpa [marks, Mark.tokens] using hall

end Segment

/-! ## What marks mean -/

/-- Part of a condition that a row of marks can be. -/
inductive MarkPhrase
  | unit
  | conjunction
  | disjunction

/-- A row of marks has a value, when it is given which comparisons hold. `levels` is the number of
groups that may still be inside one another. -/
inductive Means (holds : Segment → Bool) : (levels : Nat) → MarkPhrase → List Mark → Bool → Prop
  | comparison {levels} (segment : Segment) :
      Means holds levels .unit [Mark.comparison segment] (holds segment)
  | group {levels marks value} : Means holds levels .disjunction marks value →
      Means holds (levels + 1) .unit (Mark.opening :: marks ++ [Mark.closing]) value
  | single {levels marks value} : Means holds levels .unit marks value →
      Means holds levels .conjunction marks value
  | and {levels marks others value rest} : Means holds levels .unit marks value →
      Means holds levels .conjunction others rest →
      Means holds levels .conjunction (marks ++ Mark.and :: others) (value && rest)
  | alternative {levels marks value} : Means holds levels .conjunction marks value →
      Means holds levels .disjunction marks value
  | or {levels marks others value rest} : Means holds levels .conjunction marks value →
      Means holds levels .disjunction others rest →
      Means holds levels .disjunction (marks ++ Mark.or :: others) (value || rest)

section Reading

variable {holds : Segment → Bool} {levels depth : Nat} {marks others : List Mark}
  {value rest : Bool}

theorem Means.and_unit {phrase : MarkPhrase} (h : Means holds levels phrase marks value)
    (hphrase : phrase = .conjunction) (hunit : Means holds levels .unit others rest) :
    Means holds levels .conjunction (marks ++ Mark.and :: others) (value && rest) := by
  induction h with
  | single h => exact .and h (.single hunit)
  | and h _ _ ih =>
    rw [List.append_assoc, List.cons_append, Bool.and_assoc]
    exact .and h (ih hphrase hunit)
  | _ => cases hphrase

theorem Means.or_conjunction {phrase : MarkPhrase} (h : Means holds levels phrase marks value)
    (hphrase : phrase = .disjunction) (hconjunction : Means holds levels .conjunction others rest) :
    Means holds levels .disjunction (marks ++ Mark.or :: others) (value || rest) := by
  induction h with
  | alternative h => exact .or h (.alternative hconjunction)
  | or h _ _ ih =>
    rw [List.append_assoc, List.cons_append, Bool.or_assoc]
    exact .or h (ih hphrase hconjunction)
  | _ => cases hphrase

/-- Nothing, or a phrase with a connective after it. -/
def Means.Leads (holds : Segment → Bool) (levels : Nat) (phrase : MarkPhrase) (connective : Mark)
    (marks : List Mark) : Prop :=
  marks = [] ∨ ∃ front value, marks = front ++ [connective] ∧ Means holds levels phrase front value

/-- The marks inside a group up to where a comparison or a group must come. -/
def Means.Awaits (holds : Segment → Bool) (levels : Nat) (marks : List Mark) : Prop :=
  ∃ alternatives conjuncts, marks = alternatives ++ conjuncts ∧
    Means.Leads holds levels .disjunction .or alternatives ∧
    Means.Leads holds levels .conjunction .and conjuncts

/-- The marks inside a group up to where the group may end. -/
def Means.Ends (holds : Segment → Bool) (levels : Nat) (marks : List Mark) : Prop :=
  ∃ alternatives conjunction value, marks = alternatives ++ conjunction ∧
    Means.Leads holds levels .disjunction .or alternatives ∧
    Means holds levels .conjunction conjunction value

theorem Means.awaits_nil : Means.Awaits holds levels [] :=
  ⟨[], [], rfl, .inl rfl, .inl rfl⟩

theorem Means.Awaits.unit (h : Means.Awaits holds levels marks)
    (hunit : Means holds levels .unit others value) :
    Means.Ends holds levels (marks ++ others) := by
  obtain ⟨alternatives, conjuncts, rfl, halternatives, rfl | ⟨front, before, rfl, hfront⟩⟩ := h
  · exact ⟨alternatives, others, value, by rw [List.append_nil], halternatives, .single hunit⟩
  · refine ⟨alternatives, front ++ Mark.and :: others, _, ?_, halternatives,
      hfront.and_unit rfl hunit⟩
    simp only [List.append_assoc, List.singleton_append]

theorem Means.Ends.and (h : Means.Ends holds levels marks) :
    Means.Awaits holds levels (marks ++ [Mark.and]) := by
  obtain ⟨alternatives, conjunction, value, rfl, halternatives, hconjunction⟩ := h
  exact ⟨alternatives, conjunction ++ [Mark.and], List.append_assoc .., halternatives,
    .inr ⟨conjunction, value, rfl, hconjunction⟩⟩

theorem Means.Ends.disjunction (h : Means.Ends holds levels marks) :
    ∃ value, Means holds levels .disjunction marks value := by
  obtain ⟨alternatives, conjunction, value, rfl, halternatives, hconjunction⟩ := h
  obtain rfl | ⟨front, before, rfl, hfront⟩ := halternatives
  · exact ⟨value, .alternative hconjunction⟩
  · refine ⟨before || value, ?_⟩
    simpa using hfront.or_conjunction rfl hconjunction

theorem Means.Ends.or (h : Means.Ends holds levels marks) :
    Means.Awaits holds levels (marks ++ [Mark.or]) := by
  obtain ⟨value, hvalue⟩ := h.disjunction
  exact ⟨marks ++ [Mark.or], [], (List.append_nil _).symm, .inr ⟨marks, value, rfl, hvalue⟩,
    .inl rfl⟩

/-- The marks up to the start of the innermost group, with the groups around it left open. -/
inductive Opened (holds : Segment → Bool) : (levels depth : Nat) → List Mark → Prop
  | outermost : Opened holds Condition.maxNesting 0 []
  | group {levels depth before marks} : Opened holds (levels + 1) depth before →
      Means.Awaits holds (levels + 1) marks →
      Opened holds levels (depth + 1) (before ++ marks ++ [Mark.opening])

theorem Opened.levels_add_depth (h : Opened holds levels depth marks) :
    levels + depth = Condition.maxNesting := by
  induction h with
  | outermost => rfl
  | group _ _ ih => omega

/-- A row of marks that a comparison or a group must follow. -/
def Ready (holds : Segment → Bool) (levels depth : Nat) (marks : List Mark) : Prop :=
  ∃ before inner, marks = before ++ inner ∧ Opened holds levels depth before ∧
    Means.Awaits holds levels inner

/-- A row of marks in which every group that is still open may end. -/
def Full (holds : Segment → Bool) (levels depth : Nat) (marks : List Mark) : Prop :=
  ∃ before inner, marks = before ++ inner ∧ Opened holds levels depth before ∧
    Means.Ends holds levels inner

theorem ready_nil (holds : Segment → Bool) : Ready holds Condition.maxNesting 0 [] :=
  ⟨[], [], rfl, .outermost, Means.awaits_nil⟩

theorem Ready.levels_add_depth (h : Ready holds levels depth marks) :
    levels + depth = Condition.maxNesting := by
  obtain ⟨before, inner, -, hopened, -⟩ := h
  exact hopened.levels_add_depth

theorem Ready.opening (h : Ready holds (levels + 1) depth marks) :
    Ready holds levels (depth + 1) (marks ++ [Mark.opening]) := by
  obtain ⟨before, inner, rfl, hopened, hawaits⟩ := h
  exact ⟨before ++ inner ++ [Mark.opening], [], (List.append_nil _).symm, .group hopened hawaits,
    Means.awaits_nil⟩

theorem Ready.openings {count : Nat} (h : Ready holds (levels + count) depth marks) :
    Ready holds levels (depth + count) (marks ++ List.replicate count Mark.opening) := by
  induction count generalizing depth marks with
  | zero => simpa using h
  | succ count ih =>
    have hone : Ready holds (levels + count) (depth + 1) (marks ++ [Mark.opening]) := h.opening
    simpa [List.replicate_succ, Nat.add_right_comm, Nat.add_assoc] using ih hone

theorem Ready.comparison (h : Ready holds levels depth marks) (segment : Segment) :
    Full holds levels depth (marks ++ [Mark.comparison segment]) := by
  obtain ⟨before, inner, rfl, hopened, hawaits⟩ := h
  exact ⟨before, inner ++ [Mark.comparison segment], List.append_assoc .., hopened,
    hawaits.unit (.comparison segment)⟩

theorem Full.closing (h : Full holds levels (depth + 1) marks) :
    Full holds (levels + 1) depth (marks ++ [Mark.closing]) := by
  obtain ⟨before, inner, rfl, hopened, hends⟩ := h
  cases hopened with
  | group hopened hawaits =>
    rename_i outer front
    obtain ⟨value, hvalue⟩ := hends.disjunction
    refine ⟨outer, front ++ (Mark.opening :: inner ++ [Mark.closing]), ?_, hopened,
      hawaits.unit (.group hvalue)⟩
    simp only [List.append_assoc, List.cons_append, List.nil_append]

theorem Full.closings {count : Nat} (h : Full holds levels (depth + count) marks) :
    Full holds (levels + count) depth (marks ++ List.replicate count Mark.closing) := by
  induction count generalizing levels marks with
  | zero => simpa using h
  | succ count ih =>
    have hone : Full holds (levels + 1) (depth + count) (marks ++ [Mark.closing]) := h.closing
    simpa [List.replicate_succ, Nat.add_right_comm, Nat.add_assoc] using ih hone

theorem Full.and (h : Full holds levels depth marks) :
    Ready holds levels depth (marks ++ [Mark.and]) := by
  obtain ⟨before, inner, rfl, hopened, hends⟩ := h
  exact ⟨before, inner ++ [Mark.and], List.append_assoc .., hopened, hends.and⟩

theorem Full.or (h : Full holds levels depth marks) :
    Ready holds levels depth (marks ++ [Mark.or]) := by
  obtain ⟨before, inner, rfl, hopened, hends⟩ := h
  exact ⟨before, inner ++ [Mark.or], List.append_assoc .., hopened, hends.or⟩

/-- When no group is open, a row of marks that may end has a value. -/
theorem Full.means (h : Full holds levels 0 marks) :
    ∃ value, Means holds Condition.maxNesting .disjunction marks value := by
  obtain ⟨before, inner, rfl, hopened, hends⟩ := h
  cases hopened with
  | outermost => exact hends.disjunction

/-- The marks of one segment, apart from the connective, lead from a row that a comparison must
follow to one that may end. -/
theorem Ready.segment {opening closing : Nat} (h : Ready holds levels depth marks)
    (hopening : depth + opening ≤ Condition.maxNesting) (hclosing : closing ≤ depth + opening)
    (segment : Segment) :
    ∃ left, Full holds left (depth + opening - closing)
      (marks ++ (List.replicate opening Mark.opening ++ Mark.comparison segment
        :: List.replicate closing Mark.closing)) := by
  have hlevels := h.levels_add_depth
  obtain ⟨below, rfl⟩ : ∃ below, levels = below + opening :=
    ⟨levels - opening, by omega⟩
  obtain ⟨outer, houter⟩ : ∃ outer, depth + opening = outer + closing :=
    ⟨depth + opening - closing, by omega⟩
  have hfull := h.openings.comparison segment
  rw [houter] at hfull
  refine ⟨below + closing, ?_⟩
  rw [houter, Nat.add_sub_cancel]
  simpa using hfull.closings

/-- Segments that can be written as a condition have marks that mean something. -/
theorem Segment.marks_means {segments : List Segment} {cs : List Char}
    (h : chars depth segments = .ok cs) (hne : segments ≠ [])
    (hready : Ready holds levels depth marks) :
    ∃ value, Means holds Condition.maxNesting .disjunction (marks ++ Segment.marks segments)
      value := by
  induction segments generalizing levels depth marks cs with
  | nil => exact absurd rfl hne
  | cons segment others ih =>
    obtain ⟨opening, closing, comparison, joint, rest, hopening, hclosing, hdepth, -, hclosed,
      hjoint, hrest, -⟩ := chars_cons_eq_ok.1 h
    obtain ⟨-, rfl⟩ := groups_eq_ok.1 hopening
    obtain ⟨-, rfl⟩ := groups_eq_ok.1 hclosing
    obtain ⟨left, hfull⟩ := hready.segment hdepth hclosed segment
    obtain ⟨rfl, -⟩ | ⟨hothers, ⟨hop, -⟩ | ⟨hop, -⟩⟩ := jointChars_eq_ok.1 hjoint
    · obtain ⟨hzero, -⟩ := chars_nil_eq_ok.1 hrest
      rw [hzero] at hfull
      simpa [Segment.marks, Segment.joint] using hfull.means
    · simpa [Segment.marks, Segment.joint, hothers, hop] using ih hrest hothers hfull.and
    · simpa [Segment.marks, Segment.joint, hothers, hop] using ih hrest hothers hfull.or

end Reading

end FisheryRules
