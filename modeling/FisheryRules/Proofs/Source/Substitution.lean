import FisheryRules.Proofs.Text.Lines
import FisheryRules.Proofs.Text.Separators

/-!
# Rendering as substitution

Rendering a grammar is simultaneous substitution: the preamble stands once, and after it, for every
row, the text of the template with each placeholder replaced by a cell of the row. The placeholders
are found in the text of the template before any cell is seen, so a cell that looks like a
placeholder is copied as it is.

## Main definitions

* `Grammar.Layout` — how the lines of a grammar are laid out, said without a reader.
* `Grammar.Cut` — the placeholders of a text and the characters between them.

## Main results

* `Grammar.Cut.piecesFrom_eq_ok_iff` — reading a template finds just its placeholders.
* `Grammar.parse_renders` — rendering substitutes.
-/
namespace FisheryRules

namespace Grammar

open Text

/-! ## The layout of a grammar -/

/-- The line starts the template of a name. -/
def Titles (line name : List Char) : Prop :=
  ∃ title, trim line = "template ".toList ++ title ∧ trim title = quoted name

theorem templateName?_eq_some_iff {line name : List Char} :
    templateName? line = some name ↔ Titles line name := by
  simp only [templateName?, after?, Option.bind_eq_bind, Option.bind_eq_some_iff,
    List.isPrefixOf?_eq_some_iff_append_eq, Titles, quoted]
  refine exists_congr fun title => and_congr eq_comm ?_
  split
  case h_1 inner htitle =>
    rw [htitle, List.cons_append, List.cons.injEq, eq_self, true_and]
    constructor
    · intro h
      split at h
      · next hlast =>
        obtain ⟨front, rfl⟩ := List.getLast?_eq_some_iff.1 (by simpa using hlast)
        simpa using h
      · cases h
    · rintro rfl
      simp
  case h_2 hnone =>
    refine iff_of_false (by simp) fun htitle => ?_
    exact hnone _ htitle

/-- The lines of a grammar by what they are for. -/
structure Layout where
  blanks : List (List Char)
  header : List Char
  declarations : List (List Char)
  gap : List Char
  preamble : List (List Char)
  title : List Char
  body : List (List Char)
  ending : List Char
  rest : List (List Char)

/-- All lines in their order. -/
def Layout.lines (layout : Layout) : List (List Char) :=
  layout.blanks ++ layout.header :: (layout.declarations ++ layout.gap ::
    (layout.preamble ++ layout.title :: (layout.body ++ layout.ending :: layout.rest)))

/-- Each line is what its place says: the header is the first line that is not blank, the
parameters go on to a blank line, the preamble to the first line that starts a template, and the
body to the first line that ends it. -/
structure Layout.Declares (layout : Layout) (name : String) (parameters : List String) : Prop where
  blanks : ∀ line ∈ layout.blanks, isBlankLine line
  header : trim layout.header = "template header".toList
  some_declaration : layout.declarations ≠ []
  declarations : ∀ line ∈ layout.declarations, ¬ isBlankLine line
  parameters : parameters = layout.declarations.map fun line => String.ofList (trim line)
  gap : isBlankLine layout.gap
  preamble : ∀ line ∈ layout.preamble, ∀ name, ¬ Titles line name
  title : Titles layout.title name.toList
  body : ∀ line ∈ layout.body, trim line ≠ "end template".toList
  ending : trim layout.ending = "end template".toList

/-! ## The placeholders of a template -/

/-- Part of the text of a template. -/
inductive Part
  | char (c : Char)
  | placeholder (name : List Char)

/-- The text of a placeholder. -/
def placeholderChars (name : List Char) : List Char := '@' :: '\x7b' :: name ++ ['\x7d']

/-- The text of a part. -/
def Part.chars : Part → List Char
  | char c => [c]
  | placeholder name => placeholderChars name

/-- The text starts with a placeholder: an opening and, somewhere after it, the first closing
brace. -/
def StartsPlaceholder (text : List Char) : Prop :=
  ∃ name rest, '\x7d' ∉ name ∧ text = placeholderChars name ++ rest

/-- The text consists of the parts. From the left, whatever starts a placeholder is one, up to the
first closing brace, and any other character stands for itself. -/
inductive Cut : List Char → List Part → Prop
  | nil : Cut [] []
  | placeholder {name rest : List Char} {parts : List Part} (closed : '\x7d' ∉ name)
      (others : Cut rest parts) : Cut (placeholderChars name ++ rest) (.placeholder name :: parts)
  | char {c : Char} {rest : List Char} {parts : List Part} (plain : ¬ StartsPlaceholder (c :: rest))
      (others : Cut rest parts) : Cut (c :: rest) (.char c :: parts)

/-- The position is the last one at which the name is declared. -/
def IsLastPosition (parameters : List String) (name : String) (position : Nat) : Prop :=
  parameters[position]? = some name ∧ ∀ later, position < later → parameters[later]? ≠ some name

/-- The cell of a row for a parameter. -/
def cellOf (parameters : List String) (row : List (List Char)) (name : List Char) : List Char :=
  match lastPosition? (String.ofList name) parameters with
  | some position => row.getD position []
  | none => []

/-- The text of a part with a cell in the place of a placeholder. -/
def Part.fill (cell : List Char → List Char) : Part → List Char
  | char c => [c]
  | placeholder name => cell name

/-- A placeholder has a parameter. -/
def Part.Declared (parameters : List String) : Part → Prop
  | char _ => True
  | placeholder name => ∃ position, IsLastPosition parameters (String.ofList name) position

/-- The piece that a part is read as. -/
def Part.piece (parameters : List String) : Part → Piece
  | char c => .char c
  | placeholder name => .parameter ((lastPosition? (String.ofList name) parameters).getD 0)

variable {parameters : List String} {text rest name : List Char} {parts : List Part}
  {pieces : List Piece} {c : Char}

theorem lastPosition?_eq_none_iff {name : String} :
    lastPosition? name parameters = none ↔ name ∉ parameters := by
  induction parameters with
  | nil => simp [lastPosition?]
  | cons first others ih =>
    rw [lastPosition?, List.mem_cons, not_or, ← ih, eq_comm (a := name)]
    cases lastPosition? name others with
    | none => simp
    | some position => simp

theorem lastPosition?_eq_some_iff {name : String} {position : Nat} :
    lastPosition? name parameters = some position ↔ IsLastPosition parameters name position := by
  induction parameters generalizing position with
  | nil => simp [lastPosition?, IsLastPosition]
  | cons first others ih =>
    cases position with
    | zero =>
      have hothers : IsLastPosition (first :: others) name 0 ↔
          first = name ∧ name ∉ others := by
        simp only [IsLastPosition, List.getElem?_cons_zero, Option.some.injEq,
          List.mem_iff_getElem?, not_exists]
        refine and_congr_right fun _ => ⟨fun h i => ?_, fun h later hlater => ?_⟩
        · simpa using h (i + 1) (Nat.succ_pos i)
        · obtain ⟨i, rfl⟩ := Nat.exists_eq_succ_of_ne_zero hlater.ne'
          simpa using h i
      rw [hothers, ← lastPosition?_eq_none_iff, lastPosition?]
      cases lastPosition? name others with
      | none => simp
      | some position => simp
    | succ position =>
      have hothers : IsLastPosition (first :: others) name (position + 1) ↔
          IsLastPosition others name position := by
        refine and_congr (by simp) ⟨fun h later hlater => ?_, fun h later hlater => ?_⟩
        · simpa using h (later + 1) (Nat.succ_lt_succ hlater)
        · obtain ⟨i, rfl⟩ := Nat.exists_eq_succ_of_ne_zero (Nat.ne_zero_of_lt hlater)
          simpa using h i (Nat.lt_of_succ_lt_succ hlater)
      rw [hothers, ← ih, lastPosition?]
      cases lastPosition? name others with
      | none => simp
      | some position => simp

theorem startsPlaceholder_cons_iff :
    StartsPlaceholder (c :: rest) ↔
      c = '@' ∧ rest.head? = some '\x7b' ∧ '\x7d' ∈ rest := by
  constructor
  · rintro ⟨name, others, -, htext⟩
    simp only [placeholderChars, List.cons_append, List.append_assoc, List.cons.injEq] at htext
    obtain ⟨rfl, rfl⟩ := htext
    simp
  · rintro ⟨rfl, hopening, hclosing⟩
    obtain ⟨tail, rfl⟩ := List.head?_eq_some_iff.1 hopening
    obtain hbrace | hmem := List.mem_cons.1 hclosing
    · exact absurd hbrace (by decide)
    · obtain ⟨name, others, rfl, hname⟩ := List.eq_append_cons_of_mem hmem
      exact ⟨name, others, hname, by simp [placeholderChars]⟩

/-- Every text can be cut. -/
theorem exists_cut (text : List Char) : ∃ parts, Cut text parts := by
  induction hlength : text.length using Nat.strong_induction_on generalizing text with
  | _ length ih =>
    subst hlength
    cases text with
    | nil => exact ⟨[], .nil⟩
    | cons c rest =>
      by_cases hplaceholder : StartsPlaceholder (c :: rest)
      · obtain ⟨name, others, hname, htext⟩ := hplaceholder
        rw [htext] at ih ⊢
        obtain ⟨parts, hparts⟩ := ih others.length (by simp [placeholderChars]; omega) others rfl
        exact ⟨_, .placeholder hname hparts⟩
      · obtain ⟨parts, hparts⟩ := ih rest.length (by simp) rest rfl
        exact ⟨_, .char hplaceholder hparts⟩

/-- The parts of a text are the text. -/
theorem Cut.flatMap_chars (h : Cut text parts) : parts.flatMap Part.chars = text := by
  induction h with
  | nil => rfl
  | placeholder _ _ ih => rw [List.flatMap_cons, ih, Part.chars]
  | char _ _ ih => rw [List.flatMap_cons, ih, Part.chars, List.singleton_append]

theorem placeholderChars_inj {name' rest' : List Char} (hname : '\x7d' ∉ name)
    (hname' : '\x7d' ∉ name')
    (h : placeholderChars name ++ rest = placeholderChars name' ++ rest') :
    name = name' ∧ rest = rest' := by
  simp only [placeholderChars, List.cons_append, List.append_assoc, List.nil_append,
    List.cons.injEq, true_and] at h
  exact append_separator_inj hname hname' h

/-- A text can be cut in one way only. -/
theorem Cut.unique {others : List Part} (h : Cut text parts) (hothers : Cut text others) :
    parts = others := by
  induction h generalizing others with
  | nil =>
    cases hothers with
    | nil => rfl
  | @placeholder name rest parts hname _ ih =>
    generalize htext : placeholderChars name ++ rest = text at hothers
    cases hothers with
    | nil => simp [placeholderChars] at htext
    | placeholder hname' hrest' =>
      obtain ⟨rfl, rfl⟩ := placeholderChars_inj hname hname' htext
      rw [ih hrest']
    | char plain _ => exact absurd ⟨name, rest, hname, htext.symm⟩ plain
  | @char c rest parts plain _ ih =>
    generalize htext : c :: rest = text at hothers
    cases hothers with
    | nil => cases htext
    | placeholder hname _ => exact absurd ⟨_, _, hname, htext⟩ plain
    | char _ hrest' =>
      obtain ⟨rfl, rfl⟩ := List.cons.inj htext
      rw [ih hrest']

/-! ## Reading a template -/

/-- What belongs to a placeholder is passed over. -/
theorem piecesFrom_length (parameters : List String) (cs rest : List Char) :
    piecesFrom parameters cs.length (cs ++ rest) = piecesFrom parameters 0 rest := by
  induction cs with
  | nil => rfl
  | cons c cs ih => rw [List.length_cons, List.cons_append, piecesFrom, ih]

theorem piecesFrom_char (h : ¬ StartsPlaceholder (c :: rest)) :
    piecesFrom parameters 0 (c :: rest) = (piecesFrom parameters 0 rest).map (.char c :: ·) := by
  rw [startsPlaceholder_cons_iff] at h
  rw [piecesFrom, if_neg]
  simpa using h

theorem piecesFrom_placeholder (h : '\x7d' ∉ name) :
    piecesFrom parameters 0 (placeholderChars name ++ rest) =
      match lastPosition? (String.ofList name) parameters with
      | some position => (piecesFrom parameters 0 rest).map (.parameter position :: ·)
      | none => .error (.unknownPlaceholder (String.ofList name)) := by
  have hstarts : StartsPlaceholder (placeholderChars name ++ rest) := ⟨name, rest, h, rfl⟩
  have hname : (name ++ '\x7d' :: rest).takeWhile (· != '\x7d') = name := by
    have hopen : ∀ c ∈ name, (c != '\x7d') = true := fun c hc => by
      rw [bne_iff_ne]
      rintro rfl
      exact h hc
    rw [List.takeWhile_append_of_pos hopen]
    simp
  have hskip := piecesFrom_length parameters ('\x7b' :: name ++ ['\x7d']) rest
  simp only [placeholderChars, List.cons_append, List.append_assoc, List.nil_append,
    List.length_cons, List.length_append, List.length_nil] at hstarts hskip ⊢
  obtain ⟨-, hopening, hclosing⟩ := startsPlaceholder_cons_iff.1 hstarts
  rw [piecesFrom, if_pos (by simp)]
  cases hposition : lastPosition? (String.ofList name) parameters with
  | some position => simp only [List.drop_one, List.tail_cons, hname, hskip, hposition]
  | none => simp only [List.drop_one, List.tail_cons, hname, hposition]

theorem Cut.piecesFrom_eq_ok_iff (h : Cut text parts) :
    piecesFrom parameters 0 text = .ok pieces ↔
      (∀ part ∈ parts, part.Declared parameters) ∧ parts.map (Part.piece parameters) = pieces := by
  induction h generalizing pieces with
  | nil => simp [piecesFrom]
  | @placeholder name rest parts closed _ ih =>
    rw [piecesFrom_placeholder closed, List.forall_mem_cons, List.map_cons, Part.Declared,
      Part.piece]
    simp only [← lastPosition?_eq_some_iff]
    cases lastPosition? (String.ofList name) parameters with
    | none => simp
    | some position =>
      simp only [map_eq_ok, ih]
      constructor
      · rintro ⟨_, ⟨hdeclared, rfl⟩, rfl⟩
        exact ⟨⟨⟨position, rfl⟩, hdeclared⟩, rfl⟩
      · rintro ⟨⟨-, hdeclared⟩, rfl⟩
        exact ⟨_, ⟨hdeclared, rfl⟩, rfl⟩
  | char plain _ ih =>
    rw [piecesFrom_char plain, List.forall_mem_cons, List.map_cons, Part.Declared, Part.piece,
      map_eq_ok, true_and]
    simp only [ih]
    constructor
    · rintro ⟨_, ⟨hdeclared, rfl⟩, rfl⟩
      exact ⟨hdeclared, rfl⟩
    · rintro ⟨hdeclared, rfl⟩
      exact ⟨_, ⟨hdeclared, rfl⟩, rfl⟩

/-! ## Reading the lines of a grammar -/

variable {text lines before after others : List (List Char)}

theorem afterHeader?_eq_some {text : List Char} (h : afterHeader? text = some others) :
    ∃ blanks header, Text.lines text = blanks ++ header :: others ∧
      (∀ line ∈ blanks, isBlankLine line) ∧ trim header = "template header".toList := by
  have hsplit := List.takeWhile_append_dropWhile (p := isBlankLine) (l := Text.lines text)
  rw [afterHeader?] at h
  split at h
  · next header _ hdrop =>
    split at h
    · next hheader =>
      cases h
      rw [hdrop] at hsplit
      exact ⟨_, header, hsplit.symm, fun line => List.mem_takeWhile_imp, by simpa using hheader⟩
    · cases h
  · cases h

theorem splitTemplate?_eq_some (h : splitTemplate? lines = some (before, name, after)) :
    ∃ title, lines = before ++ title :: after ∧ Titles title name ∧
      ∀ line ∈ before, ∀ name, ¬ Titles line name := by
  induction lines generalizing before with
  | nil => cases h
  | cons line others ih =>
    rw [splitTemplate?] at h
    split at h
    · next hname =>
      cases h
      exact ⟨line, rfl, templateName?_eq_some_iff.1 hname, List.forall_mem_nil _⟩
    · next hnone =>
      obtain ⟨⟨before', name', after'⟩, hothers, heq⟩ := Option.map_eq_some_iff.1 h
      cases heq
      obtain ⟨title, rfl, htitle, hbefore⟩ := ih hothers
      refine ⟨title, rfl, htitle, List.forall_mem_cons.2 ⟨fun name hline => ?_, hbefore⟩⟩
      rw [templateName?_eq_some_iff.2 hline] at hnone
      cases hnone

theorem bodyLines?_eq_some {body : List (List Char)} (h : bodyLines? lines = some body) :
    ∃ ending rest, lines = body ++ ending :: rest ∧ trim ending = "end template".toList ∧
      ∀ line ∈ body, trim line ≠ "end template".toList := by
  induction lines generalizing body with
  | nil => cases h
  | cons line others ih =>
    rw [bodyLines?] at h
    split at h
    · next hend =>
      cases h
      exact ⟨line, others, rfl, by simpa using hend, List.forall_mem_nil _⟩
    · next hline =>
      obtain ⟨body, hothers, rfl⟩ := Option.map_eq_some_iff.1 h
      obtain ⟨ending, rest, rfl, hending, hbody⟩ := ih hothers
      exact ⟨ending, rest, rfl, hending,
        List.forall_mem_cons.2 ⟨by simpa using hline, hbody⟩⟩

/-- A text that reads as a grammar is laid out as one, and the grammar has the parameters, the
preamble and the template of the layout. -/
theorem parse_layout {text : String} {grammar : Grammar} (h : parse text = .ok grammar) :
    ∃ layout : Layout, layout.lines = Text.lines text.toList ∧
      layout.Declares grammar.name grammar.parameters ∧
      grammar.preamble = unlines layout.preamble ∧
      piecesFrom grammar.parameters 0 (unlines layout.body) = .ok grammar.body := by
  unfold Grammar.parse at h
  split at h
  case h_2 => cases h
  next lines hlines =>
  dsimp only at h
  split at h
  case isTrue => cases h
  next hdeclared =>
  split at h
  case h_2 => cases h
  next preamble name afterTitle htemplate =>
  split at h
  case h_2 => cases h
  next body hbody =>
  simp only [bind_eq_ok] at h
  obtain ⟨pieces, hpieces, hgrammar⟩ := h
  cases hgrammar
  obtain ⟨blanks, header, htext, hblanks, hheader⟩ := afterHeader?_eq_some hlines
  obtain ⟨title, hafter, htitle, hpreamble⟩ := splitTemplate?_eq_some htemplate
  obtain ⟨ending, rest, rfl, hending, hends⟩ := bodyLines?_eq_some hbody
  have hsplit := List.takeWhile_append_dropWhile (p := fun line => !isBlankLine line) (l := lines)
  -- The parameters end at a blank line, for there are lines after them.
  obtain ⟨gap, hgap⟩ : ∃ gap, lines.dropWhile (!isBlankLine ·) =
      gap :: (preamble ++ title :: (body ++ ending :: rest)) := by
    cases hdrop : lines.dropWhile (!isBlankLine ·) with
    | nil => simp [hdrop] at hafter
    | cons gap others => exact ⟨gap, by simpa [hdrop] using hafter⟩
  refine ⟨{
    blanks
    header
    declarations := lines.takeWhile (!isBlankLine ·)
    gap
    preamble
    title
    body
    ending
    rest }, ?_, ?_, rfl, hpieces⟩
  · rw [Layout.lines, htext, ← hgap, hsplit]
  · exact {
      blanks := hblanks
      header := hheader
      some_declaration := by simpa using hdeclared
      declarations := fun line hline => by simpa using List.mem_takeWhile_imp hline
      parameters := rfl
      gap := by
        have hfirst := List.head?_dropWhile_not (!isBlankLine ·) lines
        simpa [hgap] using hfirst
      preamble := hpreamble
      title := by simpa using htitle
      body := hends
      ending := hending }

/-! ## Rendering -/

/-- A piece in a row is the part that it was read from, with the cell of its parameter. -/
theorem renderPiece_piece {part : Part} (h : part.Declared parameters) (row : List (List Char)) :
    renderPiece row (part.piece parameters) = part.fill (cellOf parameters row) := by
  cases part with
  | char c => rfl
  | placeholder name =>
    obtain ⟨position, hposition⟩ := h
    have hlast := lastPosition?_eq_some_iff.2 hposition
    simp [Part.piece, Part.fill, cellOf, renderPiece, hlast]

theorem cellOf_eq {position : Nat}
    (h : IsLastPosition parameters (String.ofList name) position) (row : List (List Char)) :
    cellOf parameters row name = row.getD position [] := by
  simp [cellOf, lastPosition?_eq_some_iff.2 h]

/-- The cell of a parameter in the row of all placeholders is its placeholder. -/
theorem cellOf_placeholders {position : Nat}
    (h : IsLastPosition parameters (String.ofList name) position) :
    cellOf parameters (parameters.map fun parameter => placeholderChars parameter.toList) name =
      placeholderChars name := by
  rw [cellOf_eq h]
  simp [h.1]

/-- Rendering is simultaneous substitution. A text that reads as a grammar is laid out in lines;
the text of its template is cut into placeholders and other characters in just one way. Rendering
gives the preamble once and then, for every row, the template with the cell at the last position of
its parameter in the place of each placeholder and all else as it is, so that nothing in a cell is
looked at. A row of placeholders gives back the template. -/
theorem parse_renders {text : String} {grammar : Grammar} (h : parse text = .ok grammar) :
    ∃ (layout : Layout) (parts : List Part), layout.lines = Text.lines text.toList ∧
      layout.Declares grammar.name grammar.parameters ∧
      Cut (unlines layout.body) parts ∧
      (∀ others, Cut (unlines layout.body) others → others = parts) ∧
      (∀ name, .placeholder name ∈ parts →
        ∃ position, IsLastPosition grammar.parameters (String.ofList name) position ∧
          ∀ row, cellOf grammar.parameters row name = row.getD position []) ∧
      (∀ rows, grammar.render rows = unlines layout.preamble ++
        rows.flatMap fun row => parts.flatMap (Part.fill (cellOf grammar.parameters row))) ∧
      grammar.render [grammar.parameters.map fun name => placeholderChars name.toList] =
        unlines layout.preamble ++ unlines layout.body := by
  obtain ⟨layout, hlines, hdeclares, hpreamble, hpieces⟩ := parse_layout h
  obtain ⟨parts, hcut⟩ := exists_cut (unlines layout.body)
  obtain ⟨hdeclared, hbody⟩ := hcut.piecesFrom_eq_ok_iff.1 hpieces
  have hrow (row : List (List Char)) : grammar.body.flatMap (renderPiece row) =
      parts.flatMap (Part.fill (cellOf grammar.parameters row)) := by
    rw [← hbody, List.flatMap_map]
    exact List.flatMap_congr fun part hpart => renderPiece_piece (hdeclared part hpart) row
  refine ⟨layout, parts, hlines, hdeclares, hcut, fun others hothers => hothers.unique hcut,
    fun name hname => ?_, fun rows => ?_, ?_⟩
  · obtain ⟨position, hposition⟩ := hdeclared _ hname
    exact ⟨position, hposition, cellOf_eq hposition⟩
  · rw [render, hpreamble]
    simp only [hrow]
  · rw [render, hpreamble, List.flatMap_singleton, hrow]
    congr 1
    refine Eq.trans (List.flatMap_congr fun part hpart => ?_) hcut.flatMap_chars
    cases part with
    | char c => rfl
    | placeholder name =>
      obtain ⟨position, hposition⟩ := hdeclared _ hpart
      exact cellOf_placeholders hposition

/-- A parameter that is declared twice, placeholders side by side, an opening that nothing closes, a
row without a cell for the repeated parameter, and a cell that looks like a placeholder. -/
theorem parse_renders_repeated :
    let text := "template header\na\nb\na\n\n#\ntemplate \"T\"\n" ++
      "@\x7ba\x7d@\x7bb\x7d@\x7b\nend template"
    ∃ grammar, parse text = .ok grammar ∧
      grammar.render [["1".toList, "@\x7ba\x7d".toList]] = "#\n@\x7ba\x7d@\x7b\n".toList ∧
      ∃ layout : Layout, layout.lines = Text.lines text.toList ∧
        grammar.render [grammar.parameters.map fun name => placeholderChars name.toList] =
          unlines layout.preamble ++ unlines layout.body := by
  intro text
  let grammar : Grammar := {
    name := "T"
    parameters := ["a", "b", "a"]
    preamble := "#\n".toList
    body := [.parameter 2, .parameter 1, .char '@', .char '\x7b', .char '\n'] }
  have hparse : parse text = .ok grammar := by
    simp only [parse, text, grammar, String.reduceAppend, String.reduceToList]
    decide +kernel
  obtain ⟨layout, parts, hlines, -, -, -, -, -, hidentity⟩ := parse_renders hparse
  exact ⟨grammar, hparse, by decide +kernel, layout, hlines, hidentity⟩

end Grammar

end FisheryRules
