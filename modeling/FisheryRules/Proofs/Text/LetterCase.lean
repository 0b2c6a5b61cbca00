import FisheryRules.Proofs.Text.Separators

/-!
# Texts up to letter case

Whether a capital sigma becomes a final one depends on the characters around it, so the lower-case
form of a text is not made up of those of its parts. It is when a final sigma counts as any other
small one: then every character stands for itself.

## Main definitions

* `foldChar`, `foldChars`, `foldCase` — what stands for a character, for a list of characters and
  for a text up to letter case.
-/
namespace FisheryRules.Text

/-- The small sigma for the final one. -/
def plainSigma (c : Char) : Char := if c.toNat = 0x3C2 then Char.ofNat 0x3C3 else c

/-- What stands for a character up to letter case, whatever its neighbours. -/
def foldChar (c : Char) : List Char :=
  if c.toNat = 0x130 then ['i', Char.ofNat 0x307] else [plainSigma (lowerChar c)]

/-- What stands for a list of characters up to letter case. -/
def foldChars (cs : List Char) : List Char := cs.flatMap foldChar

/-- What stands for a text up to letter case. -/
def foldCase (s : String) : String := String.ofList (foldChars s.toList)

@[simp] theorem foldChars_nil : foldChars [] = [] := rfl

@[simp] theorem foldChars_cons (c : Char) (cs : List Char) :
    foldChars (c :: cs) = foldChar c ++ foldChars cs := rfl

@[simp] theorem foldChars_append (cs cs' : List Char) :
    foldChars (cs ++ cs') = foldChars cs ++ foldChars cs' := List.flatMap_append

@[simp] theorem toList_foldCase (s : String) : (foldCase s).toList = foldChars s.toList :=
  String.toList_ofList

theorem foldChars_joinWith (separator : List Char) (parts : List (List Char)) :
    foldChars (joinWith separator parts) =
      joinWith (foldChars separator) (parts.map foldChars) := by
  induction parts with
  | nil => rfl
  | cons part parts ih =>
    cases parts with
    | nil => simp [joinWith]
    | cons next parts => simp [joinWith, ih]

/-! ## Lower case -/

theorem lowerFrom_plainSigma (before cs : List Char) :
    (lowerFrom before cs).map plainSigma = foldChars cs := by
  induction cs generalizing before with
  | nil => rfl
  | cons c rest ih =>
    rw [lowerFrom, List.map_append, ih, foldChars_cons]
    congr 1
    unfold foldChar
    split
    · decide
    · split
      · next hsigma =>
        -- Both small forms of the sigma are the plain one.
        obtain rfl : c = Char.ofNat 0x3A3 := by
          rw [← hsigma, Char.ofNat_toNat]
        have hlower : lowerChar (Char.ofNat 0x3A3) = Char.ofNat 0x3C3 := by decide +kernel
        rw [hlower, List.map_singleton]
        split <;> decide
      · rfl

/-- Texts with the same lower-case form are the same up to letter case. -/
theorem foldChars_eq_of_lowerChars_eq {cs cs' : List Char} (h : lowerChars cs = lowerChars cs') :
    foldChars cs = foldChars cs' := by
  rw [← lowerFrom_plainSigma [] cs, ← lowerFrom_plainSigma [] cs']
  exact congrArg (List.map plainSigma) h

/-! ## Characters that stand for themselves -/

/-- A property of the characters of ASCII is one of their codes. -/
theorem forall_ascii {p : Char → Prop} (h : ∀ n < 0x80, p (Char.ofNat n)) {c : Char}
    (hc : c.toNat < 0x80) : p c := by
  have hp := h c.toNat hc
  rwa [Char.ofNat_toNat] at hp

/-- Small letters and marks within ASCII. -/
def isFolded (c : Char) : Bool := c.toNat < 0x80 && !c.isUpper

theorem lt_of_isFolded {c : Char} (h : isFolded c = true) : c.toNat < 0x80 := by
  simp only [isFolded, Bool.and_eq_true, decide_eq_true_eq] at h
  exact h.1

theorem isFolded_of_isDigit {c : Char} (h : c.isDigit = true) : isFolded c = true := by
  have hascii : c.toNat < 0x80 := by
    simp only [Char.isDigit, Bool.and_eq_true, decide_eq_true_eq, UInt32.le_iff_toNat_le] at h
    exact Nat.lt_of_le_of_lt h.2 (by decide)
  have hdigits : ∀ n < 0x80, (Char.ofNat n).isDigit = true → isFolded (Char.ofNat n) = true := by
    decide
  exact forall_ascii (p := fun c => c.isDigit = true → isFolded c = true) hdigits hascii h

theorem foldChar_of_isFolded {c : Char} (h : isFolded c = true) : foldChar c = [c] := by
  have hascii := lt_of_isFolded h
  have hsmall : c.isUpper = false := by simpa [isFolded, hascii] using h
  have hdotted : c.toNat ≠ 0x130 := by omega
  have hfinal : c.toNat ≠ 0x3C2 := by omega
  have hlower : c.toLower = c := Char.toLower_eq_of_not_isUpper (by simp [hsmall])
  simp [foldChar, lowerChar, plainSigma, hascii, hdotted, hfinal, hlower]

theorem foldChars_of_all_isFolded {cs : List Char} (h : cs.all isFolded = true) :
    foldChars cs = cs := by
  rw [foldChars, List.flatMap_congr fun c hc => foldChar_of_isFolded (List.all_eq_true.1 h c hc)]
  exact List.flatMap_singleton' _

/-- The counterparts of the letters beyond ASCII are characters, and none is a mark of ASCII. -/
theorem caseRuns_valid : ∀ run ∈ caseRuns, 0x5C < (run.first : Int) + run.shift ∧
    ((run.last : Int) + run.shift < 0xD800 ∨
      0xDFFF < (run.first : Int) + run.shift ∧ (run.last : Int) + run.shift < 0x110000) := by
  decide +kernel

theorem lt_toNat_lowerChar {c : Char} (h : isFolded c = false) : 0x5C < (lowerChar c).toNat := by
  unfold lowerChar
  split
  · next hascii =>
    have hupper : c.isUpper = true := by simpa [isFolded, hascii] using h
    rw [Char.toLower_eq_of_isUpper hupper]
    simp only [Char.isUpper, decide_eq_true_eq, UInt32.le_iff_toNat_le] at hupper
    have hlow : 0x41 ≤ c.toNat := hupper.1
    have hhigh : c.toNat ≤ 0x5A := hupper.2
    rw [Char.toNat_ofNat, if_pos (.inl (by omega))]
    omega
  · split
    · next run hrun =>
      have hcontains := List.find?_some hrun
      obtain ⟨hlow, hhigh⟩ := caseRuns_valid run (List.mem_of_find?_eq_some hrun)
      simp only [CaseRun.contains, Bool.and_eq_true, decide_eq_true_eq] at hcontains
      have hvalid : ((c.toNat : Int) + run.shift).toNat.isValidChar := by
        obtain hbelow | habove := hhigh
        · exact .inl (by omega)
        · exact .inr ⟨by omega, by omega⟩
      rw [Char.toNat_ofNat, if_pos hvalid]
      omega
    · omega

/-- What stands for any other character lies beyond the marks of ASCII. -/
theorem lt_toNat_of_mem_foldChar {c d : Char} (h : isFolded c = false) (hd : d ∈ foldChar c) :
    0x5C < d.toNat := by
  unfold foldChar at hd
  split at hd
  · obtain rfl | rfl : d = 'i' ∨ d = Char.ofNat 0x307 := by simpa using hd
    · decide
    · decide
  · rw [List.mem_singleton.1 hd, plainSigma]
    split
    · decide
    · exact lt_toNat_lowerChar h

end FisheryRules.Text
