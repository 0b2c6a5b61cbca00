import FisheryRules.Proofs.Condition.SegmentText

/-!
# Canonical texts

Every token has canonical spellings: a text is put in quotes, a number is any plain decimal that
stands for it, a word is itself unless it names a connective, and all else is a symbol. A text in
which canonical spellings stand one after the other, with blanks between neighbours, is scanned as
just these tokens.

## Main definitions

* `Token.Spells` — the canonical spellings of a token.
* `Token.SpellsAll` — canonical spellings of tokens, with blanks between them.

## Main results

* `Token.Spells.scans` — a canonical spelling is scanned before the end or a blank.
* `Token.scan_canonical` — scanning undoes canonical spelling.
-/
namespace FisheryRules

open Text

namespace Token

/-- The words that name a connective, in lower case. -/
def connectiveWords : List String := ["and", "or", "not"]

/-- The text is a canonical spelling of the token. -/
inductive Spells : List Char → Token → Prop
  | word {c : Char} {cs : List Char} (start : startsWord c = true)
      (continued : ∀ d ∈ cs, continuesWord d = true)
      (plain : String.ofList (asciiLower (c :: cs)) ∉ connectiveWords) :
      Spells (c :: cs) (.word (String.ofList (c :: cs)))
  | text (value : String) : Spells (quote value).toList (.text value)
  | number {cs : List Char} {value : Decimal} (plain : Decimal.plain? cs = some value) :
      Spells cs (.number value.toBinary64)
  | compare (op : CompareOp) : Spells op.symbol.toList (.compare op)
  | and : Spells ['&', '&'] .and
  | or : Spells ['|', '|'] .or
  | not : Spells ['!'] .not
  | openParen : Spells ['('] .openParen
  | closeParen : Spells [')'] .closeParen
  | comma : Spells [','] .comma

/-- The text is empty or starts with a blank. -/
def Parted (rest : List Char) : Prop := ∀ c ∈ rest.head?, isBlank c = true

/-- The text consists of canonical spellings of the tokens, with blanks between neighbours. There
may be more blanks before, between and after them. -/
inductive SpellsAll : List Char → List Token → Prop
  | nil : SpellsAll [] []
  | blank {c : Char} {rest : List Char} {tokens : List Token} (blank : isBlank c = true)
      (others : SpellsAll rest tokens) : SpellsAll (c :: rest) tokens
  | token {cs rest : List Char} {token : Token} {tokens : List Token} (first : Spells cs token)
      (parted : Parted rest) (others : SpellsAll rest tokens) :
      SpellsAll (cs ++ rest) (token :: tokens)

variable {cs rest : List Char} {token : Token} {tokens : List Token}

theorem parted_nil : Parted [] := by simp [Parted]

theorem parted_blank {c : Char} (h : isBlank c = true) : Parted (c :: rest) := by
  simpa [Parted] using h

/-- A blank continues neither a word nor a number, nor an operator. -/
theorem blank_spec {c : Char} (h : isBlank c = true) :
    continuesWord c = false ∧ continuesNumber c = false ∧ (c == '=') = false :=
  forall_codes
    (p := fun c => continuesWord c = false ∧ continuesNumber c = false ∧ (c == '=') = false)
    (by decide +kernel) (blank_code h)

theorem ofWord_eq_word (h : String.ofList (asciiLower cs) ∉ connectiveWords) :
    ofWord cs = .word (String.ofList cs) := by
  simp only [connectiveWords, List.mem_cons, List.not_mem_nil, or_false, not_or] at h
  obtain ⟨hand, hor, hnot⟩ := h
  simp [ofWord, hand, hor, hnot]

/-- A canonical spelling is scanned as its token, when the text ends or a blank comes after it. -/
theorem Spells.scans (h : Spells cs token) (hrest : Scans rest tokens) (hparted : Parted rest) :
    Scans (cs ++ rest) (token :: tokens) := by
  have hword : StopsAt continuesWord rest := fun c hc => (blank_spec (hparted c hc)).1
  have hnumber : StopsAt continuesNumber rest := fun c hc => (blank_spec (hparted c hc)).2.1
  have hequal : StopsAt (· == '=') rest := fun c hc => (blank_spec (hparted c hc)).2.2
  cases h with
  | word start continued plain =>
    rw [← ofWord_eq_word plain]
    exact hrest.word start continued hword
  | text value => simpa [quote] using hrest.text value.toList
  | number plain => exact hrest.number plain hnumber
  | compare op => exact hrest.compare op hequal
  | and => exact hrest.and
  | or => exact hrest.or
  | not => exact hrest.not hequal
  | openParen => exact hrest.openParen
  | closeParen => exact hrest.closeParen
  | comma => exact hrest.comma

/-- Canonical spellings with blanks between them are scanned as their tokens. -/
theorem SpellsAll.scans (h : SpellsAll cs tokens) : Scans cs tokens := by
  induction h with
  | nil => exact scans_nil
  | blank blank _ ih => exact ih.blank blank
  | token first parted _ ih => exact first.scans ih parted

/-- Canonical spellings of tokens, with blanks between neighbours, are scanned as these tokens and
no others. The literal of a text stands on one line, and what is read from it is the text, up to the
end of the literal, whatever comes after that. -/
theorem scan_canonical :
    (∀ cs tokens, SpellsAll cs tokens → scan cs = .ok tokens) ∧
    ∀ (value : String) (rest : List Char),
      OneLine (quote value).toList ∧ ∃ body, (quote value).toList = '"' :: body ∧
        readQuoted '"' (body ++ rest) = some (value.toList, body.length) := by
  refine ⟨fun cs tokens h => h.scans 0, fun value rest => ⟨?_, ?_⟩⟩
  · rw [quote, String.toList_ofList]
    exact (Segment.quoteChars_cell value.toList).oneLine
  · refine ⟨value.toList.flatMap escape ++ ['"'], by simp [quote, quoteChars], ?_⟩
    simpa using readQuoted_flatMap_escape value.toList rest

/-- A number with a sign and a point, and a text with both kinds of escapes, next to operators of
one and of two characters. -/
theorem scan_canonical_escapes :
    let cs := ['!'] ++ ' ' :: (['_', '1'] ++ '\t' :: (['>', '='] ++ ' ' ::
      (['-', '1', '.', '5'] ++ ' ' :: ((quote "a\"\\'\n").toList ++ []))))
    let tokens : List Token :=
      [.not, .word "_1", .compare .ge, .number (⟨true, 15, -1⟩ : Decimal).toBinary64,
        .text "a\"\\'\n"]
    SpellsAll cs tokens ∧ scan cs = .ok tokens := by
  intro cs tokens
  have hspace : isBlank ' ' = true := by decide
  have htab : isBlank '\t' = true := by decide
  have hword : Spells ['_', '1'] (.word "_1") :=
    .word rfl (List.forall_mem_singleton.2 rfl) (by decide +kernel)
  have hnumber : Spells ['-', '1', '.', '5'] (.number (⟨true, 15, -1⟩ : Decimal).toBinary64) :=
    .number (by decide)
  have hspelled : SpellsAll cs tokens :=
    .token .not (parted_blank hspace) <| .blank hspace <|
    .token hword (parted_blank htab) <| .blank htab <|
    .token (.compare .ge) (parted_blank hspace) <| .blank hspace <|
    .token hnumber (parted_blank hspace) <| .blank hspace <|
    .token (.text _) parted_nil .nil
  exact ⟨hspelled, scan_canonical.1 cs tokens hspelled⟩

end Token

end FisheryRules
