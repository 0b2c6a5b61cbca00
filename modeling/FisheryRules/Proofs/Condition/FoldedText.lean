import FisheryRules.Proofs.Condition.CanonicalText
import FisheryRules.Proofs.Text.Folding

/-!
# Tokens of folded texts

Folding a text onto one line knows nothing of tokens. It does not change them all the same, as long
as no literal has a line break: no other token has a blank in it, and what decides where a token
ends is seen before the next blank. A literal with a line break is changed, but it still ends where
it did.

## Main definitions

* `Place`, `Token.Unbroken` — where the literals of a text are, and that none of them has a line
  break.
* `Token.tokens?` — the tokens of a text, if it consists of tokens.

## Main results

* `Text.readQuoted_folded` — what folding does to a literal.
* `Token.lexeme_folded` — what folding does to one token.
* `Token.tokens?_fold`, `Token.tokens?_fold_eq` — what folding onto one line does to all tokens.
-/
namespace FisheryRules

open Text

/-! ## Results in relation -/

section Related

variable {α β α' β' : Type} {r : α → β → Prop} {r' : α' → β' → Prop} {x : Option α} {y : Option β}

theorem rel_map {f : α → α'} {g : β → β'} (h : Option.Rel r x y)
    (hfg : ∀ a b, r a b → r' (f a) (g b)) : Option.Rel r' (x.map f) (y.map g) := by
  cases h with
  | none => exact .none
  | some hab => exact .some (hfg _ _ hab)

theorem rel_bind {f : α → Option α'} {g : β → Option β'} (h : Option.Rel r x y)
    (hfg : ∀ a b, r a b → Option.Rel r' (f a) (g b)) : Option.Rel r' (x.bind f) (y.bind g) := by
  cases h with
  | none => exact .none
  | some hab => exact hfg _ _ hab

theorem rel_imp {s : α → β → Prop} (h : Option.Rel r x y) (hrs : ∀ a b, r a b → s a b) :
    Option.Rel s x y := by
  cases h with
  | none => exact .none
  | some hab => exact .some (hrs _ _ hab)

end Related

/-! ## Literals -/

/-- Whether a character starts a literal, which the same character ends. -/
def isQuote (c : Char) : Bool := c == '"' || c == '\''

/-- Where a character stands: outside of the literals, in a literal, or after a backslash there. -/
inductive Place
  | outside
  | inside (quote : Char)
  | escaped (quote : Char)
deriving DecidableEq

/-- The place after a character. -/
def Place.next : Place → Char → Place
  | outside, c => if isQuote c then inside c else outside
  | inside quote, c =>
    if c == '\\' then escaped quote else if c == quote then outside else inside quote
  | escaped quote, _ => inside quote

/-- No line break of a text that starts at the place stands between the quotes of a literal. -/
def Token.Unbroken : Place → List Char → Prop
  | _, [] => True
  | place, c :: cs =>
    (place = .outside ∨ isLineBreak c = false) ∧ Unbroken (place.next c) cs

open Token (Unbroken)

instance Token.decidableUnbroken :
    (place : Place) → (cs : List Char) → Decidable (Unbroken place cs)
  | _, [] => .isTrue trivial
  | place, c :: cs =>
    have := decidableUnbroken (place.next c) cs
    inferInstanceAs (Decidable ((place = .outside ∨ isLineBreak c = false) ∧ _))

variable {q c : Char} {cs ds : List Char} {offset : Nat}

theorem isQuote_spec (h : isQuote q = true) :
    q ≠ '\\' ∧ isBlank q = false ∧ isLineBreak q = false := by
  simp only [isQuote, Bool.or_eq_true, beq_iff_eq] at h
  obtain rfl | rfl := h <;> decide

namespace Text

/-- Inside a literal the characters `front` are read as `chars`, whatever comes after them. -/
def Reads (q : Char) (front chars : List Char) : Prop :=
  ∀ rest, readQuoted q (front ++ rest) =
    (readQuoted q rest).map fun found => (chars ++ found.1, front.length + found.2)

theorem reads_nil : Reads q [] [] := by
  intro rest
  simp

theorem Reads.append {front chars front' chars' : List Char} (h : Reads q front chars)
    (h' : Reads q front' chars') : Reads q (front ++ front') (chars ++ chars') := by
  intro rest
  rw [List.append_assoc, h, h', Option.map_map]
  simp [Function.comp_def, Nat.add_assoc]

theorem reads_escape (q c : Char) : Reads q ['\\', c] [unescape c] := by
  intro rest
  simp [readQuoted, Nat.add_comm]

theorem reads_char (hc : c ≠ '\\') (hq : c ≠ q) : Reads q [c] [c] := by
  intro rest
  simp [readQuoted, hc, hq, Nat.add_comm]

theorem readQuoted_close (hq : q ≠ '\\') (rest : List Char) :
    readQuoted q (q :: rest) = some ([], 1) := by
  simp [readQuoted, hq]

theorem reads_blanks {blanks : List Char} (hq : isQuote q = true)
    (h : ∀ c ∈ blanks, isBlank c = true) : Reads q blanks blanks := by
  induction blanks with
  | nil => exact reads_nil
  | cons c blanks ih =>
    obtain ⟨hc, hblanks⟩ := List.forall_mem_cons.1 h
    have hslash : c ≠ '\\' := by
      rintro rfl
      exact absurd hc (by decide)
    have hquote : c ≠ q := by
      rintro rfl
      simp [(isQuote_spec hq).2.1] at hc
    exact (reads_char hslash hquote).append (ih hblanks)

/-- A literal that only has blanks does not end. -/
theorem readQuoted_blanks (hq : isQuote q = true) (h : ∀ c ∈ cs, isBlank c = true) :
    readQuoted q cs = none := by
  simpa [readQuoted] using reads_blanks hq h []

theorem readQuoted_slash (hq : isQuote q = true) : readQuoted q ['\\'] = none := by
  simp [readQuoted, (isQuote_spec hq).1.symm]

/-- The places in a literal are those of its characters up to the closing quote. -/
theorem unbroken_inside_iff (hq : isQuote q = true) {found : List Char × Nat}
    (h : readQuoted q cs = some found) :
    Unbroken (.inside q) cs ↔
      OneLine (cs.take found.2) ∧ Unbroken .outside (cs.drop found.2) := by
  induction cs using readQuoted.induct q generalizing found with
  | case1 => simp [readQuoted] at h
  | case2 c rest ih =>
    rw [readQuoted, Option.map_eq_some_iff] at h
    obtain ⟨inner, hinner, rfl⟩ := h
    simp [Unbroken, Place.next, ih hinner, OneLine, isLineBreak, and_assoc]
  | case3 c rest hescape hclose =>
    obtain rfl : c = q := by simpa using hclose
    obtain ⟨hslash, -, hbreak⟩ := isQuote_spec hq
    rw [readQuoted_close hslash, Option.some.injEq] at h
    subst h
    simp [Unbroken, Place.next, hslash, OneLine, hbreak]
  | case4 c rest hescape hclose ih =>
    have hquote : c ≠ q := by simpa using hclose
    by_cases hslash : c = '\\'
    · subst hslash
      cases rest with
      | nil => simp [readQuoted_slash hq] at h
      | cons d rest => exact absurd rfl (hescape d rest rfl)
    have hread := reads_char hslash hquote rest
    rw [List.singleton_append] at hread
    rw [hread, Option.map_eq_some_iff] at h
    obtain ⟨inner, hinner, rfl⟩ := h
    simp [Unbroken, Place.next, hslash, hquote, ih hinner, OneLine, Nat.add_comm 1, and_assoc]

/-- What becomes of a literal when the text after its opening quote is folded: it still ends, what
comes after it is folded, and it is the same literal if it has no line break. -/
structure SameLiteral (cs ds : List Char) (found found' : List Char × Nat) : Prop where
  rest : Folded (cs.drop found.2) (ds.drop found'.2)
  same : OneLine (cs.take found.2) → found' = found

/-- Characters before the end of a literal do not change where it ends. -/
theorem Reads.rel {front chars front' chars' : List Char} (h : Reads q front chars)
    (h' : Reads q front' chars') (hsame : OneLine front → front' = front ∧ chars' = chars)
    (hrel : Option.Rel (SameLiteral cs ds) (readQuoted q cs) (readQuoted q ds)) :
    Option.Rel (SameLiteral (front ++ cs) (front' ++ ds)) (readQuoted q (front ++ cs))
      (readQuoted q (front' ++ ds)) := by
  rw [h, h']
  refine rel_map hrel fun found found' hfound => ⟨?_, fun hline => ?_⟩
  · simpa only [List.drop_length_add_append] using hfound.rest
  · rw [List.take_length_add_append] at hline
    obtain ⟨rfl, rfl⟩ := hsame (hline.of_subset (List.subset_append_left _ _))
    rw [hfound.same (hline.of_subset (List.subset_append_right _ _))]

/-- Folding the text after the opening quote of a literal changes neither whether nor where the
literal ends, and it does not change a literal without line breaks. -/
theorem readQuoted_folded (hq : isQuote q = true) (h : Folded cs ds) :
    Option.Rel (SameLiteral cs ds) (readQuoted q cs) (readQuoted q ds) := by
  obtain ⟨hslash, -, -⟩ := isQuote_spec hq
  have hspace : Reads q [' '] [' '] := reads_blanks hq (List.forall_mem_singleton.2 rfl)
  -- on the length, for an escape takes two characters and a gap any number of them
  induction hlength : cs.length using Nat.strong_induction_on generalizing cs ds with
  | _ n ih =>
    subst hlength
    cases h with
    | ends blank =>
      rw [readQuoted_blanks hq blank]
      exact .none
    | @gap c blanks cs ds blank broken others =>
      exact (reads_blanks hq blank).rel hspace (absurd · broken)
        (ih cs.length (by simp) others rfl)
    | @keep c cs ds others =>
      by_cases hclose : c = q
      · subst hclose
        rw [readQuoted_close hslash, readQuoted_close hslash]
        exact .some ⟨others, fun _ => rfl⟩
      by_cases hescape : c = '\\'
      · -- the backslash takes a character with it, which may be a blank that is folded
        subst hescape
        cases others with
        | @ends cs blank =>
          rw [readQuoted_slash hq]
          cases cs with
          | nil => rw [readQuoted_slash hq]; exact .none
          | cons d cs =>
            have hnone : readQuoted q cs = none :=
              readQuoted_blanks hq (List.forall_mem_cons.1 blank).2
            rw [readQuoted, hnone]
            exact .none
        | @gap d blanks cs ds blank broken others =>
          have hblanks : Reads q ('\\' :: d :: blanks) (unescape d :: blanks) :=
            (reads_escape q d).append (reads_blanks hq (List.forall_mem_cons.1 blank).2)
          have hbroken : ¬ OneLine ('\\' :: d :: blanks) :=
            fun hline => broken (hline.of_subset (List.subset_cons_self _ _))
          exact hblanks.rel (reads_escape q ' ') (absurd · hbroken)
            (ih cs.length (by simp; omega) others rfl)
        | @keep d cs ds others =>
          exact (reads_escape q d).rel (reads_escape q d) (fun _ => ⟨rfl, rfl⟩)
            (ih cs.length (by simp) others rfl)
      · exact (reads_char hescape hclose).rel (reads_char hescape hclose) (fun _ => ⟨rfl, rfl⟩)
          (ih cs.length (by simp) others rfl)

end Text

/-! ## Other tokens -/

namespace Token

theorem blank_not_digit : ∀ c, isBlank c = true → c.isDigit = false := by
  intro c hc
  cases hdigit : c.isDigit with
  | false => rfl
  | true => simp [digit_not_blank hdigit] at hc

theorem blank_beq {d : Char} (hd : isBlank d = false) :
    ∀ c, isBlank c = true → (c == d) = false := by
  intro c hc
  rw [beq_eq_false_iff_ne]
  rintro rfl
  simp [hd] at hc

theorem head?_beq_some (cs : List Char) (d : Char) :
    (cs.head? == some d) = cs.head?.any (· == d) := by
  cases cs <;> rfl

/-- Folding what comes after the first character of a token that is no literal does not change the
token, nor what is wrong with it. -/
theorem lexeme_congr (hc : isQuote c = false) (h : Folded cs ds) :
    lexeme offset c ds = lexeme offset c cs := by
  have hword := h.takeWhile_eq fun c hc => (blank_spec hc).1
  have hnumber := h.takeWhile_eq fun c hc => (blank_spec hc).2.1
  have hdigit := h.head?_any blank_not_digit
  have hand := h.head?_any (blank_beq (d := '&') rfl)
  have hor := h.head?_any (blank_beq (d := '|') rfl)
  have hequal := h.head?_any (blank_beq (d := '=') rfl)
  rw [isQuote] at hc
  simp only [lexeme, head?_beq_some, hword, hnumber, hdigit, hand, hor, hequal, hc]
  rfl

/-- The character is no blank and no quote. -/
def Solid (c : Char) : Prop := isBlank c = false ∧ isQuote c = false

theorem solid_of_continues {p : Char → Bool} (hblank : ∀ c, isBlank c = true → p c = false)
    (hdouble : p '"' = false) (hsingle : p '\'' = false) (hc : p c = true) : Solid c := by
  constructor
  · cases h : isBlank c with
    | false => rfl
    | true => simp [hblank c h] at hc
  · cases h : isQuote c with
    | false => rfl
    | true =>
      simp only [isQuote, Bool.or_eq_true, beq_iff_eq] at h
      obtain rfl | rfl := h
      · simp [hdouble] at hc
      · simp [hsingle] at hc

/-- All that a token has after its first character is solid. -/
def TakesSolid (cs : List Char) (result : Except ScanError (Token × Nat)) : Prop :=
  ∀ found, result = .ok found → ∀ d ∈ cs.take found.2, Solid d

theorem takesSolid_error (error : ScanError) : TakesSolid cs (.error error) := by
  rintro found ⟨⟩

theorem takesSolid_first (token : Token) : TakesSolid cs (.ok (token, 0)) := by
  rintro found ⟨⟩
  simp

theorem takesSolid_next {d : Char} (token : Token) (hnext : (cs.head? == some d) = true)
    (hd : Solid d) : TakesSolid cs (.ok (token, 1)) := by
  rintro found ⟨⟩
  cases cs with
  | nil => cases hnext
  | cons c cs =>
    obtain rfl : c = d := by simpa using hnext
    simpa using hd

theorem takesSolid_while {p : Char → Bool} (token : Token) (hp : ∀ d, p d = true → Solid d) :
    TakesSolid cs (.ok (token, (cs.takeWhile p).length)) := by
  rintro found ⟨⟩ d hd
  have htake : cs.take (cs.takeWhile p).length = cs.takeWhile p :=
    (List.prefix_iff_eq_take.1 (List.takeWhile_prefix p)).symm
  rw [htake] at hd
  exact hp d (List.mem_takeWhile_imp hd)

theorem TakesSolid.ite {p : Prop} [Decidable p] {x y : Except ScanError (Token × Nat)}
    (hx : p → TakesSolid cs x) (hy : TakesSolid cs y) : TakesSolid cs (if p then x else y) := by
  split
  · exact hx ‹_›
  · exact hy

theorem lexeme_takesSolid (hc : isQuote c = false) : TakesSolid cs (lexeme offset c cs) := by
  have hand {d : Char} {p : Bool} (h : (p && cs.head? == some d) = true) :
      (cs.head? == some d) = true := (Bool.and_eq_true_iff.1 h).2
  have hequal : Solid '=' := ⟨rfl, rfl⟩
  have hword : ∀ d, continuesWord d = true → Solid d := fun d =>
    solid_of_continues (fun c hc => (blank_spec hc).1) (by decide +kernel)
      (by decide +kernel)
  have hnumber : ∀ d, continuesNumber d = true → Solid d := fun d =>
    solid_of_continues (fun c hc => (blank_spec hc).2.1) rfl rfl
  rw [isQuote] at hc
  simp only [lexeme, hc, Bool.false_eq_true, if_false]
  refine .ite (fun _ => takesSolid_first _) <| .ite (fun _ => takesSolid_first _) <|
    .ite (fun _ => takesSolid_first _) ?_
  -- the operators of two characters
  refine .ite (fun h => takesSolid_next _ (hand h) ⟨rfl, rfl⟩) <|
    .ite (fun h => takesSolid_next _ (hand h) ⟨rfl, rfl⟩) <|
    .ite (fun h => takesSolid_next _ (hand h) hequal) <|
    .ite (fun h => takesSolid_next _ (hand h) hequal) <|
    .ite (fun _ => takesSolid_first _) ?_
  refine .ite (fun _ => .ite (fun h => takesSolid_next _ h hequal) (takesSolid_first _)) <|
    .ite (fun _ => .ite (fun h => takesSolid_next _ h hequal) (takesSolid_first _)) ?_
  refine .ite (fun _ => ?_) <| .ite (fun _ => takesSolid_while _ hword) (takesSolid_error _)
  split
  · exact takesSolid_while _ hnumber
  · exact takesSolid_error _

theorem Unbroken.drop_solid {n : Nat} (h : Unbroken .outside cs)
    (hn : ∀ c ∈ cs.take n, Solid c) : Unbroken .outside (cs.drop n) := by
  induction n generalizing cs with
  | zero => exact h
  | succ n ih =>
    cases cs with
    | nil => exact h
    | cons c cs =>
      obtain ⟨⟨-, hc⟩, hcs⟩ := List.forall_mem_cons.1 hn
      have hplace : Place.next .outside c = .outside := by simp [Place.next, hc]
      exact ih (hplace ▸ h.2) hcs

/-! ## All tokens -/

/-- What becomes of a token when the text after its first character is folded: what comes after the
token is folded, and it is the same token if no literal is broken. -/
structure SameToken (c : Char) (cs ds : List Char) (found found' : Token × Nat) : Prop where
  rest : Folded (cs.drop found.2) (ds.drop found'.2)
  same : Unbroken .outside (c :: cs) →
    found'.1 = found.1 ∧ Unbroken .outside (cs.drop found.2)

/-- A literal is the token that is read from it. -/
theorem toOption_lexeme_quote (hq : isQuote q = true) (cs : List Char) :
    (lexeme offset q cs).toOption =
      (readQuoted q cs).map fun found => (.text (String.ofList found.1), found.2) := by
  simp only [isQuote, Bool.or_eq_true, beq_iff_eq] at hq
  obtain rfl | rfl := hq
  · simp only [lexeme]
    cases readQuoted '"' cs <;> rfl
  · simp only [lexeme]
    cases readQuoted '\'' cs <;> rfl

/-- Folding what comes after the first character of a token changes neither whether nor where the
token ends. -/
theorem lexeme_folded (h : Folded cs ds) :
    Option.Rel (SameToken c cs ds) (lexeme offset c cs).toOption
      (lexeme offset c ds).toOption := by
  cases hc : isQuote c with
  | true =>
    rw [toOption_lexeme_quote hc, toOption_lexeme_quote hc]
    have hliteral := readQuoted_folded hc h
    generalize hfound : readQuoted c cs = found, readQuoted c ds = found' at hliteral
    cases hliteral with
    | none => exact .none
    | some hsame =>
      refine .some ⟨hsame.rest, fun hunbroken => ?_⟩
      have hinside : Unbroken (.inside c) cs := by
        have hnext := hunbroken.2
        rwa [Place.next, if_pos hc] at hnext
      obtain ⟨hline, hrest⟩ := (unbroken_inside_iff hc hfound).1 hinside
      rw [hsame.same hline]
      exact ⟨rfl, hrest⟩
  | false =>
    rw [lexeme_congr hc h]
    cases hlexeme : lexeme offset c cs with
    | error error => exact .none
    | ok found =>
      have hsolid := lexeme_takesSolid hc found hlexeme
      refine .some ⟨h.drop fun d hd => (hsolid d hd).1, fun hunbroken => ⟨rfl, ?_⟩⟩
      have houtside : Unbroken .outside cs := by
        have hnext := hunbroken.2
        rwa [Place.next, hc] at hnext
      exact houtside.drop_solid hsolid

/-- The tokens of a text, if it consists of tokens. -/
def tokens? (cs : List Char) : Option (List Token) := (scan cs).toOption

/-- Where a text stands shows in the flaws of its tokens only. -/
theorem toOption_lexeme (offset : Nat) :
    (lexeme offset c cs).toOption = (lexeme 0 c cs).toOption := by
  cases hread : readQuoted c cs <;>
  · simp only [lexeme, hread, apply_ite Except.toOption]
    rfl

theorem toOption_scanFrom_cons (hc : isBlank c = false) (offset : Nat) (cs : List Char) :
    (scanFrom 0 offset (c :: cs)).toOption = (lexeme 0 c cs).toOption.bind fun found =>
      (scanFrom found.2 (offset + 1) cs).toOption.map (found.1 :: ·) := by
  rw [scanFrom, if_neg (by simp [hc]), ← toOption_lexeme offset]
  cases lexeme offset c cs with
  | error flaw => rfl
  | ok found =>
    obtain ⟨token, width⟩ := found
    change ((scanFrom width (offset + 1) cs).map (token :: ·)).toOption =
      (scanFrom width (offset + 1) cs).toOption.map (token :: ·)
    cases scanFrom width (offset + 1) cs <;> rfl

/-- The tokens from some place on are those of the text from there on. -/
theorem toOption_scanFrom (pending offset : Nat) (cs : List Char) :
    (scanFrom pending offset cs).toOption = tokens? (cs.drop pending) := by
  induction cs generalizing pending offset with
  | nil => simp [tokens?, scan, scanFrom]
  | cons c cs ih =>
    cases pending with
    | succ left => rw [scanFrom, ih, List.drop_succ_cons]
    | zero =>
      rw [List.drop_zero, tokens?, scan]
      cases hc : isBlank c with
      | true => simp only [scanFrom, hc, if_true, ih]
      | false => simp only [toOption_scanFrom_cons hc, ih]

theorem tokens?_blank (hc : isBlank c = true) (cs : List Char) :
    tokens? (c :: cs) = tokens? cs := by
  rw [tokens?, scan, scanFrom, if_pos hc, toOption_scanFrom, List.drop_zero]

theorem tokens?_blanks {blanks : List Char} (h : ∀ c ∈ blanks, isBlank c = true)
    (cs : List Char) : tokens? (blanks ++ cs) = tokens? cs := by
  induction blanks with
  | nil => rfl
  | cons c blanks ih =>
    obtain ⟨hc, hblanks⟩ := List.forall_mem_cons.1 h
    rw [List.cons_append, tokens?_blank hc, ih hblanks]

theorem tokens?_cons (hc : isBlank c = false) (cs : List Char) :
    tokens? (c :: cs) = (lexeme 0 c cs).toOption.bind fun found =>
      (tokens? (cs.drop found.2)).map (found.1 :: ·) := by
  rw [tokens?, scan, toOption_scanFrom_cons hc]
  simp only [toOption_scanFrom]

theorem Unbroken.of_blanks {blanks : List Char} (hblanks : ∀ c ∈ blanks, isBlank c = true)
    (h : Unbroken .outside (blanks ++ cs)) : Unbroken .outside cs := by
  induction blanks with
  | nil => exact h
  | cons c blanks ih =>
    obtain ⟨hc, hothers⟩ := List.forall_mem_cons.1 hblanks
    have hquote : isQuote c = false := by
      cases hq : isQuote c with
      | false => rfl
      | true => simp [(isQuote_spec hq).2.1] at hc
    have hplace : Place.next .outside c = .outside := by simp [Place.next, hquote]
    exact ih hothers (hplace ▸ h.2)

/-- Folding a text does not change whether it consists of tokens, nor which ones if no literal is
broken. -/
theorem tokens?_folded (h : Folded cs ds) :
    Option.Rel (fun tokens tokens' => Unbroken .outside cs → tokens' = tokens) (tokens? cs)
      (tokens? ds) := by
  -- on the length, for a token takes many characters at once
  induction hlength : cs.length using Nat.strong_induction_on generalizing cs ds with
  | _ n ih =>
    subst hlength
    cases h with
    | ends blank =>
      have hempty := tokens?_blanks blank []
      rw [List.append_nil] at hempty
      rw [hempty]
      exact .some fun _ => rfl
    | @gap c blanks cs ds blank broken others =>
      rw [← List.cons_append, tokens?_blanks blank, tokens?_blank rfl]
      exact rel_imp (ih cs.length (by simp) others rfl)
        fun tokens tokens' hsame hunbroken => hsame (hunbroken.of_blanks blank)
    | @keep c cs ds others =>
      cases hc : isBlank c with
      | true =>
        have hblank : ∀ d ∈ [c], isBlank d = true := List.forall_mem_singleton.2 hc
        rw [tokens?_blank hc, tokens?_blank hc]
        exact rel_imp (ih cs.length (by simp) others rfl)
          fun tokens tokens' hsame hunbroken => hsame (Unbroken.of_blanks hblank hunbroken)
      | false =>
        rw [tokens?_cons hc, tokens?_cons hc]
        refine rel_bind (lexeme_folded others) fun found found' hlexeme => ?_
        have hshorter : (cs.drop found.2).length < (c :: cs).length := by
          rw [List.length_drop, List.length_cons]
          omega
        refine rel_map (ih _ hshorter hlexeme.rest rfl) fun tokens tokens' hothers hunbroken => ?_
        obtain ⟨htoken, hdrop⟩ := hlexeme.same hunbroken
        rw [htoken, hothers hdrop]

/-- Folding onto one line does not change whether a text consists of tokens, nor which ones if no
literal is broken. -/
theorem tokens?_fold (cs : List Char) :
    Option.Rel (fun tokens tokens' => Unbroken .outside cs → tokens' = tokens) (tokens? cs)
      (tokens? (fold cs)) := by
  obtain ⟨blanks, rest, hsplit, hblanks, hfolded⟩ := exists_folded cs
  have hrest := tokens?_folded hfolded
  rw [← tokens?_blanks hblanks, ← hsplit] at hrest
  exact rel_imp hrest fun tokens tokens' hsame hunbroken =>
    hsame (Unbroken.of_blanks hblanks (hsplit ▸ hunbroken))

/-- Folding onto one line does not change the tokens of a text that consists of tokens, unless a
literal has a line break, and gives no other text any tokens. -/
theorem tokens?_fold_eq (h : ∀ tokens, scan cs = .ok tokens → Unbroken .outside cs) :
    tokens? (fold cs) = tokens? cs := by
  have hrel := tokens?_fold cs
  generalize hfound : tokens? cs = found, tokens? (fold cs) = found' at hrel
  cases hrel with
  | none => rfl
  | @some tokens tokens' hsame => rw [hsame (h tokens (toOption_eq_some.1 hfound))]

theorem isSome_tokens?_fold (cs : List Char) :
    (tokens? (fold cs)).isSome = (tokens? cs).isSome := by
  have hrel := tokens?_fold cs
  generalize tokens? cs = found, tokens? (fold cs) = found' at hrel
  cases hrel <;> rfl

end Token

end FisheryRules
