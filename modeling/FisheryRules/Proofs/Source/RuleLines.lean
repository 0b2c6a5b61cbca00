import FisheryRules.Proofs.Source.RuleText

/-!
# The rules of any lines

How lines are split into rules, whatever they are. A line that names a rule starts one, and the rule
reaches up to a line that ends it or to the next line that names one. Where no rule is open, a line
must either not count or name a rule; the first stray line fails the whole source.

## Main definitions

* `RuleText.IsStray` — a line that belongs to no rule and may not stand between rules.
* `RuleText.units` — the rules of some lines.

## Main results

* `RuleText.splitFrom_cons` — what one line does.
* `RuleText.split_of_forall_not`, `RuleText.split_of_isLeast` — what splitting comes to without a
  stray line, and with one.
-/
namespace FisheryRules

open Text

namespace RuleText

/-! ## Kinds of lines -/

/-- Whether a line names a rule. -/
def startsRule (line : List Char) : Bool := "rule ".toList.isPrefixOf (trim line)

/-- Whether a line ends a rule. -/
def endsRule (line : List Char) : Bool := trim line == "end".toList

/-- A rule is open after the lines: one of them names it, and none after that one ends it. -/
def OpenAfter (lines : List (List Char)) : Prop :=
  ∃ before header inside, lines = before ++ header :: inside ∧ startsRule header = true ∧
    ∀ line ∈ inside, endsRule line = false

/-- The line at the place belongs to no rule, and may not stand between rules either. -/
def IsStray (lines : List (List Char)) (i : Nat) : Prop :=
  ∃ line, lines[i]? = some line ∧ ¬ OpenAfter (lines.take i) ∧ startsRule line = false ∧
    skipped line = false

/-- The error about a stray line. -/
def strayError (number : Nat) (line : List Char) : SourceError :=
  ⟨number, s!"expected `rule \"<name>\"`, found `{String.ofList (trim line)}`"⟩

/-! ## The rules of lines -/

/-- Whether a line stands inside a rule that is open before it. -/
def isInside (line : List Char) : Bool := !startsRule line && !endsRule line

/-- An open rule with the lines that come next. -/
def extend (rule : RuleText) (others : List (List Char)) : RuleText :=
  { rule with
    lines := rule.lines ++ (others.takeWhile isInside).map trim
    ended := rule.ended || (others.dropWhile isInside).head?.any endsRule }

/-- The name in a line that names a rule. -/
def headerName (line : List Char) : List Char := (header? (trim line)).getD []

/-- The rule that a line names, with the lines after it up to one that ends it or names another
rule. -/
def ofLines (header : List Char) (others : List (List Char)) : RuleText :=
  extend ⟨headerName header, [], false⟩ others

/-- The rules of some lines: one for every line that names one, in the order of these lines. -/
def units : List (List Char) → List RuleText
  | [] => []
  | line :: others =>
    if startsRule line then ofLines line others :: units others else units others

variable {line : List Char} {lines others : List (List Char)} {current : Option RuleText}

/-- The rules have the names that the lines give. -/
theorem map_name_units (lines : List (List Char)) :
    (units lines).map name = (lines.filter startsRule).map headerName := by
  induction lines with
  | nil => rfl
  | cons line others ih =>
    rw [units, List.filter_cons]
    split
    · rw [List.map_cons, List.map_cons, ih]
      rfl
    · exact ih

/-- There are as many rules as lines that name one. -/
theorem length_units (lines : List (List Char)) :
    (units lines).length = lines.countP startsRule := by
  have hnames := congrArg List.length (map_name_units lines)
  rwa [List.length_map, List.length_map, ← List.countP_eq_length_filter] at hnames

theorem isSome_header? (line : List Char) : (header? (trim line)).isSome = startsRule line := by
  rw [header?, Option.isSome_map, after?, List.isSome_isPrefixOf?_eq_isPrefixOf, startsRule]

theorem header?_eq_some (h : startsRule line = true) :
    header? (trim line) = some (headerName line) := by
  rw [← isSome_header?, Option.isSome_iff_exists] at h
  obtain ⟨name, hname⟩ := h
  rw [headerName, hname, Option.getD_some]

theorem header?_eq_none (h : startsRule line = false) : header? (trim line) = none := by
  rwa [← isSome_header?, Option.isSome_eq_false_iff, Option.isNone_iff_eq_none] at h

/-- A line that ends a rule names none. -/
theorem startsRule_of_endsRule (h : endsRule line = true) : startsRule line = false := by
  rw [endsRule, beq_iff_eq] at h
  rw [startsRule, h]
  simp only [String.reduceToList]
  decide

theorem extend_nil (rule : RuleText) : extend rule [] = rule := by simp [extend]

theorem extend_inside (rule : RuleText) (hstarts : startsRule line = false)
    (hends : endsRule line = false) :
    extend rule (line :: others) =
      extend { rule with lines := rule.lines ++ [trim line] } others := by
  have hinside : isInside line = true := by simp [isInside, hstarts, hends]
  simp [extend, hinside]

theorem extend_end (rule : RuleText) (hends : endsRule line = true) :
    extend rule (line :: others) = { rule with ended := true } := by
  have hinside : isInside line = false := by simp [isInside, hends]
  simp [extend, hinside, hends]

theorem extend_start (rule : RuleText) (hstarts : startsRule line = true) :
    extend rule (line :: others) = rule := by
  have hends : endsRule line = false := by
    cases hends : endsRule line with
    | false => rfl
    | true => simp [startsRule_of_endsRule hends] at hstarts
  have hinside : isInside line = false := by simp [isInside, hstarts]
  simp [extend, hinside, hends]

/-! ## What one line does -/

/-- The rule that is open after a line. -/
def next (current : Option RuleText) (line : List Char) : Option RuleText :=
  if startsRule line then some ⟨headerName line, [], false⟩
  else current.bind fun rule =>
    if endsRule line then none else some { rule with lines := rule.lines ++ [trim line] }

/-- The rule that is complete when a line has been read. -/
def completed (current : Option RuleText) (line : List Char) : Option RuleText :=
  current.bind fun rule =>
    if startsRule line then some rule
    else if endsRule line then some { rule with ended := true } else none

/-- Whether a line is stray, by whether a rule is open before it. -/
def isStrayLine (opened : Bool) (line : List Char) : Bool :=
  !opened && !startsRule line && !skipped line

theorem map_self (x : Except SourceError (List RuleText)) : x.map (fun units => units) = x :=
  congrFun Except.map_id x

/-- A line fails the source, or it is read and the lines after it are. -/
theorem splitFrom_cons (number : Nat) (current : Option RuleText) (line : List Char)
    (others : List (List Char)) :
    splitFrom number current (line :: others) =
      if isStrayLine current.isSome line then .error (strayError number line)
      else (splitFrom (number + 1) (next current line) others).map
        ((completed current line).toList ++ ·) := by
  cases hstarts : startsRule line with
  | true =>
    have hheader := header?_eq_some hstarts
    cases current with
    | none =>
      rw [splitFrom_header number hheader]
      simp [isStrayLine, next, completed, hstarts, map_self]
    | some rule =>
      rw [splitFrom.eq_def]
      simp [isStrayLine, next, completed, hstarts, hheader]
  | false =>
    have hheader := header?_eq_none hstarts
    cases current with
    | none =>
      cases hskipped : skipped line with
      | true =>
        rw [splitFrom_skipped number hheader hskipped]
        simp [isStrayLine, next, completed, hstarts, hskipped, map_self]
      | false =>
        have hstray : isStrayLine (none : Option RuleText).isSome line = true := by
          simp [isStrayLine, hstarts, hskipped]
        have hkept : ¬ (isVoid (trim line) || "package ".toList.isPrefixOf (trim line)) = true :=
          ne_true_of_eq_false hskipped
        rw [if_pos hstray, splitFrom.eq_def]
        simp only [hheader]
        rw [if_neg hkept]
        rfl
    | some rule =>
      cases hends : endsRule line with
      | true =>
        rw [splitFrom_end number rule (beq_iff_eq.1 hends)]
        simp [isStrayLine, next, completed, hstarts, hends]
      | false =>
        rw [splitFrom_inside number rule hheader (beq_eq_false_iff_ne.1 hends)]
        simp [isStrayLine, next, completed, hstarts, hends, map_self]

/-- The rules of a line and of those after it, when a rule is open or none. -/
theorem rules_cons (current : Option RuleText) (line : List Char) (others : List (List Char)) :
    (completed current line).toList ++
      ((next current line).map (extend · others)).toList ++ units others =
    (current.map (extend · (line :: others))).toList ++ units (line :: others) := by
  cases hstarts : startsRule line with
  | true =>
    cases current with
    | none => simp [completed, next, units, hstarts, ofLines]
    | some rule => simp [completed, next, units, hstarts, ofLines, extend_start]
  | false =>
    cases current with
    | none => simp [completed, next, units, hstarts]
    | some rule =>
      cases hends : endsRule line with
      | true => simp [completed, next, units, hstarts, hends, extend_end]
      | false => simp [completed, next, units, hstarts, hends, extend_inside]

/-! ## Open rules -/

/-- Whether a rule is open after a line, by whether one is open before it. -/
def opens (opened : Bool) (line : List Char) : Bool := startsRule line || (opened && !endsRule line)

theorem isSome_next (current : Option RuleText) (line : List Char) :
    (next current line).isSome = opens current.isSome line := by
  cases hstarts : startsRule line <;> cases hends : endsRule line <;> cases current <;>
    simp [next, opens, hstarts, hends]

/-- Whether a rule is open after some lines, by whether one is open before them. -/
def isOpen (opened : Bool) (lines : List (List Char)) : Bool := lines.foldl opens opened

theorem openAfter_append_singleton :
    OpenAfter (lines ++ [line]) ↔
      startsRule line = true ∨ OpenAfter lines ∧ endsRule line = false := by
  constructor
  · rintro ⟨before, header, inside, hlines, hstarts, hinside⟩
    induction inside using List.reverseRecOn with
    | nil =>
      obtain ⟨-, hline⟩ := List.append_inj' hlines rfl
      cases hline
      exact .inl hstarts
    | append_singleton inside last _ =>
      have hsplit : lines ++ [line] = (before ++ header :: inside) ++ [last] := by
        simpa using hlines
      obtain ⟨rfl, hline⟩ := List.append_inj' hsplit rfl
      cases hline
      obtain ⟨hinside, hlast⟩ := List.forall_mem_append.1 hinside
      exact .inr ⟨⟨before, header, inside, rfl, hstarts, hinside⟩, hlast line (by simp)⟩
  · rintro (hstarts | ⟨⟨before, header, inside, rfl, hstarts, hinside⟩, hends⟩)
    · exact ⟨lines, line, [], rfl, hstarts, List.forall_mem_nil _⟩
    · exact ⟨before, header, inside ++ [line], by simp, hstarts,
        List.forall_mem_append.2 ⟨hinside, List.forall_mem_singleton.2 hends⟩⟩

theorem isOpen_iff (lines : List (List Char)) : isOpen false lines = true ↔ OpenAfter lines := by
  induction lines using List.reverseRecOn with
  | nil => simp [isOpen, OpenAfter]
  | append_singleton lines line ih =>
    rw [openAfter_append_singleton, ← ih, isOpen, List.foldl_append]
    simp [isOpen, opens]

/-! ## Stray lines -/

/-- The line at the place is stray, when a rule is open before the lines or none is. -/
def StrayFrom (opened : Bool) (lines : List (List Char)) (i : Nat) : Prop :=
  ∃ line, lines[i]? = some line ∧ isStrayLine (isOpen opened (lines.take i)) line = true

theorem isStray_iff {i : Nat} : IsStray lines i ↔ StrayFrom false lines i := by
  refine exists_congr fun line => and_congr_right fun _ => ?_
  rw [← isOpen_iff]
  simp [isStrayLine, and_assoc]

theorem strayFrom_zero {opened : Bool} :
    StrayFrom opened (line :: others) 0 ↔ isStrayLine opened line = true := by
  simp [StrayFrom, isOpen]

theorem strayFrom_succ {opened : Bool} {i : Nat} :
    StrayFrom opened (line :: others) (i + 1) ↔ StrayFrom (opens opened line) others i := by
  simp [StrayFrom, isOpen]

/-- Without a stray line, the lines are split into their rules. -/
theorem splitFrom_of_forall_not (number : Nat)
    (h : ∀ i, ¬ StrayFrom current.isSome lines i) :
    splitFrom number current lines =
      .ok ((current.map (extend · lines)).toList ++ units lines) := by
  induction lines generalizing number current with
  | nil =>
    have hcurrent : current.map (extend · []) = current := by
      cases current <;> simp [extend_nil]
    rw [hcurrent, units, List.append_nil, splitFrom.eq_def]
  | cons line others ih =>
    have hfirst : ¬ isStrayLine current.isSome line = true := mt strayFrom_zero.2 (h 0)
    have hothers : ∀ i, ¬ StrayFrom (next current line).isSome others i := by
      intro i
      rw [isSome_next, ← strayFrom_succ]
      exact h (i + 1)
    rw [splitFrom_cons, if_neg hfirst, ih _ hothers, Except.map, ← List.append_assoc, rules_cons]

/-- The first stray line is reported, with its number. -/
theorem splitFrom_of_isLeast (number : Nat) (current : Option RuleText) {i : Nat}
    (h : IsLeast {i | StrayFrom current.isSome lines i} i) :
    ∃ line, lines[i]? = some line ∧
      splitFrom number current lines = .error (strayError (number + i) line) := by
  obtain ⟨hstray, hleast⟩ := h
  induction lines generalizing number current i with
  | nil =>
    obtain ⟨line, hline, -⟩ := hstray
    cases hline
  | cons line others ih =>
    by_cases hfirst : isStrayLine current.isSome line = true
    · obtain rfl : i = 0 := Nat.le_zero.1 (hleast (strayFrom_zero.2 hfirst))
      exact ⟨line, rfl, by rw [splitFrom_cons, if_pos hfirst, Nat.add_zero]⟩
    · cases i with
      | zero => exact absurd (strayFrom_zero.1 hstray) hfirst
      | succ i =>
        have hnext : ∀ j, StrayFrom current.isSome (line :: others) (j + 1) ↔
            StrayFrom (next current line).isSome others j := by
          intro j
          rw [isSome_next, strayFrom_succ]
        obtain ⟨found, hfound, hsplit⟩ := ih (number + 1) _ ((hnext i).1 hstray)
          fun j hj => Nat.le_of_succ_le_succ (hleast ((hnext j).2 hj))
        refine ⟨found, by simpa using hfound, ?_⟩
        rw [splitFrom_cons, if_neg hfirst, hsplit, Nat.add_assoc, Nat.add_comm 1]
        rfl

/-- A source without a stray line is split into the rules of its lines. -/
theorem split_of_forall_not {source : List Char} (h : ∀ i, ¬ IsStray (Text.lines source) i) :
    split source = .ok (units (Text.lines source)) :=
  splitFrom_of_forall_not 1 fun i => mt isStray_iff.2 (h i)

/-- A source with a stray line is not split; the first stray line is reported. -/
theorem split_of_isLeast {source : List Char} {i : Nat}
    (h : IsLeast {i | IsStray (Text.lines source) i} i) :
    ∃ line, (Text.lines source)[i]? = some line ∧
      split source = .error (strayError (i + 1) line) := by
  simp only [isStray_iff] at h
  obtain ⟨line, hline, hsplit⟩ := splitFrom_of_isLeast 1 none h
  exact ⟨line, hline, by rw [split, hsplit, Nat.add_comm]⟩

end RuleText

end FisheryRules
