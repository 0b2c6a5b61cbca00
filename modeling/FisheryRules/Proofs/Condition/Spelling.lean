import FisheryRules.Condition.Token
import FisheryRules.Proofs.Results

/-!
# Spellings of tokens

How tokens are written so that they are scanned again. A word or a number ends where the next
character cannot continue it, and a text in quotes is read back whatever characters it has.
-/
namespace FisheryRules

open Text

variable {c : Char} {cs rest : List Char}

/-- The text does not start with a character of the class. -/
def StopsAt (continues : Char → Bool) (rest : List Char) : Prop :=
  ∀ c ∈ rest.head?, continues c = false

theorem StopsAt.takeWhile_append {continues : Char → Bool} (hrest : StopsAt continues rest)
    (hcs : ∀ c ∈ cs, continues c = true) : (cs ++ rest).takeWhile continues = cs := by
  have hnone : rest.takeWhile continues = [] := by
    cases rest with
    | nil => rfl
    | cons c rest => simp [hrest c (by simp)]
  rw [List.takeWhile_append_of_pos hcs, hnone, List.append_nil]

/-- A property of all characters with some codes. -/
theorem forall_codes {codes : List Nat} {p : Char → Prop} (h : ∀ n ∈ codes, p (Char.ofNat n))
    (hc : c.toNat ∈ codes) : p c := by
  have hp := h _ hc
  rwa [Char.ofNat_toNat] at hp

/-! ## Quoted texts -/

theorem readQuoted_escape (c : Char) (rest : List Char) :
    readQuoted '"' (escape c ++ rest) =
      (readQuoted '"' rest).map fun (text, width) => (c :: text, width + (escape c).length) := by
  by_cases hspecial : c = '"' ∨ c = '\\'
  · obtain rfl | rfl := hspecial <;> simp [escape, readQuoted, unescape]
  by_cases hfeed : c = '\n'
  · subst hfeed
    simp [escape, readQuoted, unescape]
  by_cases hreturn : c = '\r'
  · subst hreturn
    simp [escape, readQuoted, unescape]
  · obtain ⟨hquote, hslash⟩ := not_or.1 hspecial
    simp [escape, hquote, hslash, hfeed, hreturn, readQuoted]

/-- The text of a literal is read up to the closing quote, whatever comes after it. -/
theorem readQuoted_flatMap_escape (cs rest : List Char) :
    readQuoted '"' (cs.flatMap escape ++ '"' :: rest) =
      some (cs, (cs.flatMap escape).length + 1) := by
  induction cs with
  | nil => simp [readQuoted]
  | cons c cs ih =>
    rw [List.flatMap_cons, List.append_assoc, readQuoted_escape, ih]
    simp [Nat.add_comm, Nat.add_left_comm]

/-! ## Numerals -/

theorem Decimal.splitPoint_spec {whole fraction : List Char} {point : Bool}
    (h : Decimal.splitPoint cs = (whole, fraction, point, rest)) :
    ∃ middle, cs = whole ++ middle ++ rest ∧ (∀ c ∈ whole, c.isDigit = true) ∧
      ∀ c ∈ middle, Token.continuesNumber c = true := by
  have hdigits (cs : List Char) : ∀ c ∈ cs.takeWhile Char.isDigit, c.isDigit = true :=
    fun c hc => List.all_eq_true.1 List.all_takeWhile c hc
  have hsplit := List.takeWhile_append_dropWhile (p := Char.isDigit) (l := cs)
  unfold Decimal.splitPoint at h
  split at h
  · rename_i after hafter
    obtain ⟨rfl, rfl, rfl, rfl⟩ := by simpa using h
    refine ⟨'.' :: after.takeWhile Char.isDigit, ?_, hdigits cs, ?_⟩
    · calc cs = cs.takeWhile Char.isDigit ++ '.' :: after := by rw [← hafter, hsplit]
        _ = _ := by simp
    · simpa [Token.continuesNumber] using fun c hc => .inl (hdigits after c hc)
  · obtain ⟨rfl, rfl, rfl, rfl⟩ := by simpa using h
    exact ⟨[], by simp [hsplit], hdigits cs, by simp⟩

/-- A numeral starts with a digit, after a sign or not, and goes on with digits and points. -/
theorem Decimal.plain?_shape {value : Decimal} (h : Decimal.plain? cs = some value) :
    ∃ sign digit tail, cs = sign ++ digit :: tail ∧ (sign = [] ∨ sign = ['-']) ∧
      digit.isDigit = true ∧ ∀ c ∈ tail, Token.continuesNumber c = true := by
  obtain ⟨sign, body, hcs, hsign, hbody⟩ : ∃ sign body, cs = sign ++ body ∧
      (sign = [] ∨ sign = ['-']) ∧
      (if cs.head? == some '-' then cs.drop 1 else cs) = body := by
    cases cs with
    | nil => exact ⟨[], [], rfl, .inl rfl, rfl⟩
    | cons c cs =>
      by_cases hminus : c = '-'
      · exact ⟨['-'], cs, by simp [hminus], .inr rfl, by simp [hminus]⟩
      · exact ⟨[], c :: cs, rfl, .inl rfl, by simp [hminus]⟩
  simp only [Decimal.plain?, hbody] at h
  split at h
  · cases h
  · rename_i whole fraction point hwhole hsplit
    obtain ⟨middle, rfl, hdigits, hmiddle⟩ := Decimal.splitPoint_spec hsplit
    obtain ⟨digit, others, rfl⟩ := List.exists_cons_of_ne_nil hwhole
    obtain ⟨hdigit, hothers⟩ := List.forall_mem_cons.1 hdigits
    refine ⟨sign, digit, others ++ middle, by simp [hcs], hsign, hdigit, fun c hc => ?_⟩
    obtain hc | hc := List.mem_append.1 hc
    · simp [Token.continuesNumber, hothers c hc]
    · exact hmiddle c hc
  · cases h

namespace Token

/-- The text is scanned as the tokens, at whatever offset it stands. -/
def Scans (cs : List Char) (tokens : List Token) : Prop :=
  ∀ offset, scanFrom 0 offset cs = .ok tokens

variable {tokens : List Token}

theorem scans_nil : Scans [] [] := fun _ => rfl

/-- What belongs to the token before is passed over. -/
theorem scanFrom_length (cs rest : List Char) (offset : Nat) :
    scanFrom cs.length offset (cs ++ rest) = scanFrom 0 (offset + cs.length) rest := by
  induction cs generalizing offset with
  | nil => rfl
  | cons c cs ih =>
    rw [List.length_cons, List.cons_append, scanFrom, ih]
    congr 1
    omega

theorem Scans.blank (h : Scans rest tokens) (hblank : isBlank c = true) :
    Scans (c :: rest) tokens := by
  intro offset
  simpa [scanFrom, hblank] using h (offset + 1)

/-- A token is scanned before those of the text after it. -/
theorem Scans.lexeme {token : Token} {s : List Char} (h : Scans rest tokens)
    (hblank : isBlank c = false)
    (hlexeme : ∀ offset, lexeme offset c (s ++ rest) = .ok (token, s.length)) :
    Scans (c :: s ++ rest) (token :: tokens) := by
  intro offset
  rw [List.cons_append, scanFrom]
  simp only [hblank, hlexeme, Bool.false_eq_true, if_false]
  rw [scanFrom_length, h]
  rfl

theorem Scans.openParen (h : Scans rest tokens) : Scans ('(' :: rest) (.openParen :: tokens) :=
  h.lexeme (s := []) (by decide) fun _ => rfl

theorem Scans.closeParen (h : Scans rest tokens) : Scans (')' :: rest) (.closeParen :: tokens) :=
  h.lexeme (s := []) (by decide) fun _ => rfl

theorem Scans.and (h : Scans rest tokens) : Scans ('&' :: '&' :: rest) (.and :: tokens) :=
  h.lexeme (s := ['&']) (by decide) fun _ => rfl

theorem Scans.or (h : Scans rest tokens) : Scans ('|' :: '|' :: rest) (.or :: tokens) :=
  h.lexeme (s := ['|']) (by decide) fun _ => rfl

theorem Scans.comma (h : Scans rest tokens) : Scans (',' :: rest) (.comma :: tokens) :=
  h.lexeme (s := []) (by decide) fun _ => rfl

theorem head?_beq_eq_false {c : Char} (h : StopsAt (· == c) rest) :
    (rest.head? == some c) = false := by
  cases rest with
  | nil => rfl
  | cons d rest => simpa using h d (by simp)

/-- A negation is scanned when no sign of equality comes after it. -/
theorem Scans.not (h : Scans rest tokens) (hrest : StopsAt (· == '=') rest) :
    Scans ('!' :: rest) (.not :: tokens) :=
  h.lexeme (s := []) (by decide) fun _ => by simp [Token.lexeme, head?_beq_eq_false hrest]

/-- A comparison is scanned when no sign of equality comes after it. -/
theorem Scans.compare (op : CompareOp) (h : Scans rest tokens) (hrest : StopsAt (· == '=') rest) :
    Scans (op.symbol.toList ++ rest) (.compare op :: tokens) := by
  have hnext : (rest.head? == some '=') = false := head?_beq_eq_false hrest
  cases op <;> simp only [CompareOp.symbol, String.reduceToList]
  case eq => exact h.lexeme (s := ['=']) (by decide) fun _ => rfl
  case ne => exact h.lexeme (s := ['=']) (by decide) fun _ => rfl
  case ge => exact h.lexeme (s := ['=']) (by decide) fun _ => rfl
  case le => exact h.lexeme (s := ['=']) (by decide) fun _ => rfl
  case gt => exact h.lexeme (s := []) (by decide) fun _ => by simp [Token.lexeme, hnext]
  case lt => exact h.lexeme (s := []) (by decide) fun _ => by simp [Token.lexeme, hnext]

theorem Scans.text (cs : List Char) (h : Scans rest tokens) :
    Scans (quoteChars cs ++ rest) (.text (String.ofList cs) :: tokens) := by
  have hshape : quoteChars cs ++ rest = '"' :: (cs.flatMap escape ++ ['"']) ++ rest := by
    simp [quoteChars]
  rw [hshape]
  refine h.lexeme (by decide) fun _ => ?_
  have hread : readQuoted '"' (cs.flatMap escape ++ ['"'] ++ rest) =
      some (cs, (cs.flatMap escape).length + 1) := by
    simpa using readQuoted_flatMap_escape cs rest
  simp only [Token.lexeme, hread]
  simp

/-- The codes of the decimal digits. -/
theorem digit_code (h : c.isDigit = true) : c.toNat ∈ List.range' 48 10 := by
  simp only [Char.isDigit, Bool.and_eq_true, decide_eq_true_eq] at h
  have hlow : 48 ≤ c.toNat := h.1
  have hhigh : c.toNat ≤ 57 := h.2
  exact List.mem_range'_1.2 ⟨hlow, by omega⟩

/-- The codes of the blanks. -/
theorem blank_code (h : isBlank c = true) :
    c.toNat ∈ List.range' 0x09 5 ++ List.range' 0x2000 11 ++
      [0x20, 0x85, 0xA0, 0x1680, 0x2028, 0x2029, 0x202F, 0x205F, 0x3000] := by
  simp only [isBlank, Bool.or_eq_true, Bool.and_eq_true, decide_eq_true_eq, beq_iff_eq] at h
  simp only [List.mem_append, List.mem_range'_1, List.mem_cons, List.not_mem_nil]
  omega

/-- No digit is a blank. -/
theorem digit_not_blank (h : c.isDigit = true) : isBlank c = false :=
  forall_codes (p := fun c => isBlank c = false) (by decide +kernel) (digit_code h)

/-- No word starts with a digit or a blank. -/
theorem startsWord_spec (h : startsWord c = true) : isBlank c = false ∧ c.isDigit = false := by
  constructor
  · cases hblank : isBlank c with
    | false => rfl
    | true =>
      have hnot : startsWord c = false := forall_codes (p := fun c => startsWord c = false)
        (by decide +kernel) (blank_code hblank)
      simp [hnot] at h
  · cases hdigit : c.isDigit with
    | false => rfl
    | true =>
      have hnot : startsWord c = false := forall_codes (p := fun c => startsWord c = false)
        (by decide +kernel) (digit_code hdigit)
      simp [hnot] at h

/-- The characters that start a token of their own. -/
def punctuation : List Char := ['(', ')', ',', '&', '|', '=', '!', '>', '<', '"', '\'']

theorem not_punctuation {p : Char → Bool} (hnone : punctuation.all (!p ·) = true)
    (h : p c = true) : ∀ d ∈ punctuation, (c == d) = false := by
  intro d hd
  rw [beq_eq_false_iff_ne]
  rintro rfl
  have hnot := List.all_eq_true.1 hnone c hd
  simp [h] at hnot

theorem Scans.number {value : Decimal} (hvalue : Decimal.plain? cs = some value)
    (h : Scans rest tokens) (hrest : StopsAt continuesNumber rest) :
    Scans (cs ++ rest) (.number value.toBinary64 :: tokens) := by
  obtain ⟨sign, digit, tail, rfl, hsign, hdigit, htail⟩ := Decimal.plain?_shape hvalue
  obtain rfl | rfl := hsign
  · refine h.lexeme (digit_not_blank hdigit) fun offset => ?_
    have hne := not_punctuation (p := Char.isDigit) (by decide) hdigit
    simp only [punctuation, List.forall_mem_cons] at hne
    simp only [List.nil_append] at hvalue
    simp only [Token.lexeme, hne, hdigit, hrest.takeWhile_append htail, hvalue]
    simp
  · have hall : ∀ c ∈ digit :: tail, continuesNumber c = true :=
      List.forall_mem_cons.2 ⟨by simp [continuesNumber, hdigit], htail⟩
    have htake : (digit :: (tail ++ rest)).takeWhile continuesNumber = digit :: tail :=
      hrest.takeWhile_append hall
    refine h.lexeme (s := digit :: tail) (by decide) fun offset => ?_
    simp only [List.singleton_append] at hvalue
    simp [Token.lexeme, htake, hvalue, hdigit]

theorem Scans.word (hstart : startsWord c = true)
    (hcs : ∀ c ∈ cs, continuesWord c = true) (h : Scans rest tokens)
    (hrest : StopsAt continuesWord rest) :
    Scans (c :: cs ++ rest) (ofWord (c :: cs) :: tokens) := by
  obtain ⟨hblank, hdigit⟩ := startsWord_spec hstart
  have hminus : (c == '-') = false := by
    rw [beq_eq_false_iff_ne]
    rintro rfl
    revert hstart
    decide
  have hne := not_punctuation (p := startsWord) (by decide +kernel) hstart
  refine h.lexeme hblank fun offset => ?_
  simp only [punctuation, List.forall_mem_cons] at hne
  simp only [Token.lexeme, hne, hdigit, hminus, hstart, hrest.takeWhile_append hcs]
  simp

end Token

end FisheryRules
