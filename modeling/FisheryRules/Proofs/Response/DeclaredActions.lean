import FisheryRules.Proofs.Rule.Order
import FisheryRules.Proofs.Text.Lines
import FisheryRules.Response.Action

/-!
# Action lists read back

What is read from the action list of a custom rule, when the rule fires, of the actions that it
declares. `DeclaredAction.parseList_actionChars` says that each of them is read back; a semicolon
ends an entry, so what follows one in a value is read as entries of its own.
-/
namespace FisheryRules

open Text

/-- The value of an action, which is empty when it has none. -/
def RuleAction.valueChars (action : RuleAction) : List Char := (action.value.getD "").toList

/-- What stands in a text after its first semicolon. -/
def Text.afterSemicolon (cs : List Char) : List Char := (cs.dropWhile (· != ';')).drop 1

namespace DeclaredAction

/-- The entry of a kind with a value. The value loses the blanks at its ends, and the word `null`
stands for none. -/
def ofValue (kind : ActionKind) (value : List Char) : DeclaredAction :=
  ⟨kind, if trim value = "null".toList then "" else String.ofList (trim value)⟩

/-! ## Entries one after the other -/

@[simp] theorem parseList_nil : parseList [] = [] := rfl

/-- A semicolon separates the entries before it from those after it. -/
theorem parseList_append (front rest : List Char) :
    parseList (front ++ ';' :: rest) = parseList front ++ parseList rest := by
  simp [parseList, pieces_append]

theorem parseList_joinWith (entries : List (List Char)) :
    parseList (joinWith [';'] entries) = entries.flatMap parseList := by
  induction entries with
  | nil => rfl
  | cons first others ih =>
    cases others with
    | nil => simp [joinWith]
    | cons second others =>
      rw [List.flatMap_cons, ← ih, ← parseList_append]
      simp [joinWith]

/-! ## One entry -/

theorem parse_code (kind : ActionKind) : ActionKind.parse kind.code.toList = .ok kind := by
  cases kind <;> decide +kernel

/-- A kind is spelled as a word without commas and semicolons. -/
theorem code_spec (kind : ActionKind) :
    Trimmed kind.code.toList ∧ (∀ c ∈ kind.code.toList, (c == ';') = false) ∧
      ∀ c ∈ kind.code.toList, (c != ',') = true := by
  have hcode : Trimmed kind.code.toList ∧ kind.code.toList.all (· != ';') = true ∧
      kind.code.toList.all (· != ',') = true := by
    cases kind <;> decide
  simpa only [List.all_eq_true, bne_iff_ne, beq_eq_false_iff_ne] using hcode

/-- An entry without a semicolon is read back. -/
theorem parseList_entry (kind : ActionKind) {value : List Char} (h : ';' ∉ value) :
    parseList (kind.code.toList ++ ',' :: value) = [ofValue kind value] := by
  obtain ⟨htrimmed, hsemicolon, hcomma⟩ := code_spec kind
  have hpieces : pieces (· == ';') (kind.code.toList ++ ',' :: value) =
      [kind.code.toList ++ ',' :: value] := by
    refine pieces_eq_singleton fun c hc => ?_
    obtain hc | hc := List.mem_append.1 hc
    · exact hsemicolon c hc
    · obtain rfl | hc := List.mem_cons.1 hc
      · decide
      · exact beq_false_of_ne fun heq => h (heq ▸ hc)
  have htrim : trim (kind.code.toList ++ ',' :: value) =
      kind.code.toList ++ ',' :: trimEnd value := by
    rw [← List.singleton_append, ← List.append_assoc,
      trim_append (htrimmed.append (by decide)) (by simp), List.append_assoc, List.singleton_append]
  have hkind : (kind.code.toList ++ ',' :: trimEnd value).takeWhile (· != ',') =
      kind.code.toList := by
    rw [List.takeWhile_append_of_pos hcomma]
    simp
  have hvalue : entryValue (kind.code.toList ++ ',' :: trimEnd value) =
      if trim value = "null".toList then [] else trim value := by
    rw [entryValue, List.dropWhile_append_of_pos hcomma]
    simp [trim_trimEnd]
  have hentry : ofEntry? (kind.code.toList ++ ',' :: trimEnd value) =
      some (ofValue kind value) := by
    unfold ofEntry?
    rw [hkind, hvalue, parse_code, ofValue]
    split <;> rfl
  simp [parseList, hpieces, htrim, hentry]

/-- Of an entry whose value has a semicolon, the part before the semicolon is read as its value. -/
theorem parseList_actionEntry (action : RuleAction) :
    parseList (CustomRule.actionEntry action) =
      ofValue action.action (action.valueChars.takeWhile (· != ';')) ::
        parseList (afterSemicolon action.valueChars) := by
  generalize hvalue : action.valueChars = value
  have hfirst : ';' ∉ value.takeWhile (· != ';') := fun hmem => by
    simpa using List.mem_takeWhile_imp hmem
  have hsplit : value = value.takeWhile (· != ';') ++ value.dropWhile (· != ';') :=
    List.takeWhile_append_dropWhile.symm
  rw [CustomRule.actionEntry, ← RuleAction.valueChars, hvalue, afterSemicolon]
  generalize value.takeWhile (· != ';') = first at hfirst hsplit ⊢
  cases hrest : value.dropWhile (· != ';') with
  | nil =>
    rw [hsplit, hrest, List.append_nil, parseList_entry _ hfirst]
    rfl
  | cons c rest =>
    have hc : c = ';' := by
      have hhead := List.head?_dropWhile_not (· != ';') value
      simpa [hrest] using hhead
    rw [hsplit, hrest, hc, ← List.cons_append, ← List.append_assoc, parseList_append,
      parseList_entry _ hfirst]
    rfl

/-! ## The actions of a rule -/

/-- The entry for an action with its whole value. -/
def ofAction (action : RuleAction) : DeclaredAction := ofValue action.action action.valueChars

/-- The action list of a rule is read as the actions of the rule, by ascending order and those of
equal order in their places, each with its kind and its value. Only a semicolon in a value ends it:
what follows it is read as an action list of its own. -/
theorem parseList_actionChars (rule : CustomRule) :
    SortedBy RuleAction.order rule.actions rule.sortedActions ∧
      (parseList rule.actionChars = rule.sortedActions.flatMap fun action =>
        ofValue action.action (action.valueChars.takeWhile (· != ';')) ::
          parseList (afterSemicolon action.valueChars)) ∧
      ((∀ action ∈ rule.actions, ';' ∉ action.valueChars) →
        parseList rule.actionChars = rule.sortedActions.map ofAction) := by
  have hsorted := rule.sortedActions_sortedBy
  have hlist : parseList rule.actionChars =
      rule.sortedActions.flatMap fun action => parseList (CustomRule.actionEntry action) := by
    rw [CustomRule.actionChars, parseList_joinWith, List.flatMap_map]
  refine ⟨hsorted, ?_, fun h => ?_⟩
  · rw [hlist]
    exact List.flatMap_congr fun action _ => parseList_actionEntry action
  · rw [hlist, List.map_eq_flatMap]
    exact List.flatMap_congr fun action hmem =>
      parseList_entry action.action (h action (hsorted.perm.mem_iff.1 hmem))

/-- Values with commas, blanks and the word for none, of actions that are out of order. -/
theorem parseList_actionChars_addresses :
    let rule : CustomRule := {
      guid := "g"
      name := "n"
      actions := [
        { action := .email, value := some " a@b.com, c@d.com ", order := 2 },
        { action := .sms, value := some "null", order := 1 },
        { action := .ticket, order := 2 }] }
    (∀ action ∈ rule.actions, ';' ∉ action.valueChars) ∧
      parseList rule.actionChars = [⟨.sms, ""⟩, ⟨.email, "a@b.com, c@d.com"⟩, ⟨.ticket, ""⟩] := by
  intro rule
  have hvalues : ∀ action ∈ rule.actions, ';' ∉ action.valueChars := by
    simp only [rule, List.forall_mem_cons]
    exact ⟨by decide, by decide, by decide, List.forall_mem_nil _⟩
  refine ⟨hvalues, ((parseList_actionChars rule).2.2 hvalues).trans ?_⟩
  have hsorted : rule.sortedActions = [
      { action := .sms, value := some "null", order := 1 },
      { action := .email, value := some " a@b.com, c@d.com ", order := 2 },
      { action := .ticket, order := 2 }] := by cbv
  rw [hsorted]
  cbv

/-- An address after a semicolon is lost, and an action after a semicolon is run although the rule
does not declare it. -/
theorem parseList_actionChars_semicolon :
    let rule : CustomRule := {
      guid := "g"
      name := "n"
      actions := [
        { action := .email, value := some "a@b.com;c@d.com" },
        { action := .sms, value := some "x;TICKET,y" }] }
    parseList rule.actionChars = [⟨.email, "a@b.com"⟩, ⟨.sms, "x"⟩, ⟨.ticket, "y"⟩] ∧
      parseList rule.actionChars ≠ rule.sortedActions.map ofAction := by
  intro rule
  have hsorted : rule.sortedActions = rule.actions := by cbv
  rw [CustomRule.actionChars, hsorted]
  decide +kernel

end DeclaredAction

end FisheryRules
