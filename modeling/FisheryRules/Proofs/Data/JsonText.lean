import FisheryRules.Proofs.Data.JsonNumber
import FisheryRules.Proofs.Data.QuotedText

/-!
# Reading written JSON

The text of a tree is read as that tree, whatever follows it, when the tree holds only what JSON
can tell apart: no scalars of an undecided kind, integers of sixty-four bits, and finite numbers.

## Main definitions

* `Data.Legible` — the trees that JSON can tell apart, by how deep they nest.

## Main results

* `Json.value_toJson` — a written tree is read back from the front of a text.
* `Data.ofJson?_toJson` — a written tree is read back from its text.
-/
namespace FisheryRules

namespace Json

/-! ## Lists and records -/

/-- A list or a record is closed by a character that neither is in a number nor stands between
items. -/
theorem closing {close : Char} (h : close = ']' ∨ close = '\x7d') :
    isNumberChar close = false ∧ isSpace close = false ∧ close ≠ ',' := by
  obtain rfl | rfl := h <;> decide

/-- What may stand at the front of an item: neither a blank nor what closes the list. -/
def Opens (close : Char) (cs : List Char) : Prop :=
  ∃ c rest, cs = c :: rest ∧ isSpace c = false ∧ c ≠ close

/-- An item is read back from the front of a text, whatever follows it. -/
structure ReadsBack {α : Type} (close : Char) (item : Reader α) (spell : α → List Char)
    (a : α) : Prop where
  opens : Opens close (spell a)
  reads : ∀ rest, EndsNumber rest → item (spell a ++ rest) = some (a, rest)

section Items

variable {α : Type} {close : Char} {item : Reader α} {spell : α → List Char} {items : List α}
  {rest : List Char}

theorem opens_cons {c : Char} {cs : List Char} (hclose : close = ']' ∨ close = '\x7d')
    (hspace : isSpace c = false) (hne : c ≠ ']' ∧ c ≠ '\x7d') : Opens close (c :: cs) := by
  refine ⟨c, cs, rfl, hspace, ?_⟩
  obtain rfl | rfl := hclose
  · exact hne.1
  · exact hne.2

theorem skipSpace_append {cs : List Char} (h : Opens close cs) :
    skipSpace (cs ++ rest) = cs ++ rest := by
  obtain ⟨c, tail, rfl, hspace, -⟩ := h
  simp [skipSpace, hspace]

/-- What follows the first item of a list. -/
def tail (spell : α → List Char) (close : Char) (items : List α) (rest : List Char) : List Char :=
  items.flatMap (fun a => ',' :: spell a) ++ close :: rest

theorem joinWith_tail (a : α) :
    Text.joinWith [','] ((a :: items).map spell) ++ close :: rest =
      spell a ++ tail spell close items rest := by
  induction items generalizing a with
  | nil => rfl
  | cons b items ih =>
    rw [List.map_cons, Text.joinWith_cons (by simp), List.append_assoc, List.cons_append, ih]
    simp [tail]

theorem length_lt_tail : items.length < (tail spell close items rest).length := by
  induction items with
  | nil => simp [tail]
  | cons a items ih =>
    simp only [tail, List.flatMap_cons, List.length_append, List.length_cons] at ih ⊢
    omega

theorem endsNumber_tail (hclose : close = ']' ∨ close = '\x7d') :
    EndsNumber (tail spell close items rest) := by
  cases items with
  | nil => simpa [EndsNumber, tail] using (closing hclose).1
  | cons a items =>
    have hcomma : isNumberChar ',' = false := by decide
    simpa [EndsNumber, tail] using hcomma

/-- The items after the first one are read up to the closing character. -/
theorem others_tail {bound : Nat} (hbound : items.length < bound)
    (hclose : close = ']' ∨ close = '\x7d') (hitems : ∀ a ∈ items, ReadsBack close item spell a) :
    others close item bound (tail spell close items rest) = some (items, rest) := by
  obtain ⟨-, hspace, hcomma⟩ := closing hclose
  obtain ⟨bound, rfl⟩ := Nat.exists_eq_add_one_of_ne_zero (Nat.ne_of_gt (Nat.zero_lt_of_lt hbound))
  induction items generalizing bound with
  | nil => simp [tail, others, skipSpace, hspace]
  | cons a items ih =>
    obtain ⟨ha, hitems⟩ := List.forall_mem_cons.1 hitems
    obtain ⟨bound, rfl⟩ : ∃ n, bound = n + 1 := ⟨bound - 1, by grind⟩
    have hskip : skipSpace (tail spell close (a :: items) rest) =
        ',' :: (spell a ++ tail spell close items rest) := by
      have hblank : isSpace ',' = false := by decide
      simp [tail, skipSpace, hblank]
    have hread := ha.reads (tail spell close items rest) (endsNumber_tail hclose)
    have hmore := ih hitems bound (by simpa using hbound)
    rw [others, hskip]
    simp [beq_false_of_ne hcomma.symm, skipSpace_append ha.opens, hread, hmore]

/-- Written items with commas between them are read up to the closing character. -/
theorem sequence_joinWith (hclose : close = ']' ∨ close = '\x7d')
    (hitems : ∀ a ∈ items, ReadsBack close item spell a) :
    sequence close item (Text.joinWith [','] (items.map spell) ++ close :: rest) =
      some (items, rest) := by
  cases items with
  | nil => simp [Text.joinWith, sequence, skipSpace, (closing hclose).2.1]
  | cons a items =>
    obtain ⟨ha, hitems⟩ := List.forall_mem_cons.1 hitems
    have hread := ha.reads (tail spell close items rest) (endsNumber_tail hclose)
    have hmore : others close item ((tail spell close items rest).length + 1)
        (tail spell close items rest) = some (items, rest) :=
      others_tail (Nat.lt_succ_of_lt length_lt_tail) hclose hitems
    rw [joinWith_tail, sequence, skipSpace_append ha.opens]
    obtain ⟨c, front, hfront, -, hne⟩ := ha.opens
    rw [hfront] at hread ⊢
    simp only [List.cons_append] at hread ⊢
    simp [beq_false_of_ne hne, hread, hmore]

end Items

/-! ## Values -/

theorem textToJson_append (s : String) (rest : List Char) :
    Data.textToJson s ++ rest = '"' :: (s.toList.flatMap Data.escapeChar ++ '"' :: rest) := by
  simp [Data.textToJson]

/-- A written text is read from after its opening quote. -/
theorem text_escaped (s : String) (rest : List Char) :
    text (s.toList.flatMap Data.escapeChar ++ '"' :: rest) = some (s, rest) := by
  have hlength (cs : List Char) : cs.length ≤ (cs.flatMap Data.escapeChar).length := by
    induction cs with
    | nil => simp
    | cons c cs ih =>
      have hone : 0 < (Data.escapeChar c).length := by
        fun_cases Data.escapeChar c <;> simp
      simp only [List.flatMap_cons, List.length_append, List.length_cons]
      omega
  have hbound : s.toList.length <
      (s.toList.flatMap Data.escapeChar ++ '"' :: rest).length + 1 := by
    have hle := hlength s.toList
    simp only [List.length_append, List.length_cons]
    omega
  rw [text, characters_escaped hbound]
  simp

/-- A member is read back when its value is. -/
theorem member_reads {read : Reader Data} {name : String} {value : Data}
    (hvalue : ReadsBack '\x7d' read Data.toJson value) :
    ReadsBack '\x7d' (member read)
      (fun m => Data.textToJson m.1 ++ ':' :: m.2.toJson) (name, value) where
  opens := ⟨'"', _, textToJson_append _ _, by decide, by decide⟩
  reads rest hrest := by
    have hcolon (cs : List Char) : skipSpace (':' :: cs) = ':' :: cs := by
      have hblank : isSpace ':' = false := by decide
      simp [skipSpace, hblank]
    rw [List.append_assoc, textToJson_append, member, text_escaped]
    simp [hcolon, skipSpace_append hvalue.opens, hvalue.reads rest hrest]

end Json

namespace Data

/-- The trees that JSON can tell apart, of lists and records that nest so deep. -/
inductive Legible : Nat → Data → Prop
  | null {depth : Nat} : Legible depth null
  | bool {depth : Nat} {value : Bool} : Legible depth (bool value)
  | integer {depth : Nat} {value : Int} (h : Json.isShort (value < 0) value.natAbs = true) :
    Legible depth (integer value)
  | real {depth : Nat} {value : Binary64} (h : value.isFinite = true) :
    Legible depth (real value)
  | text {depth : Nat} {value : String} : Legible depth (text value)
  | list {depth : Nat} {items : List Data} (h : ∀ item ∈ items, Legible depth item) :
    Legible (depth + 1) (list items)
  | record {depth : Nat} {members : List (String × Data)}
    (h : ∀ member ∈ members, Legible depth member.2) : Legible (depth + 1) (record members)

theorem Legible.mono {depth limit : Nat} {data : Data} (h : Legible depth data)
    (hle : depth ≤ limit) : Legible limit data := by
  induction h generalizing limit with
  | null => exact .null
  | bool => exact .bool
  | integer h => exact .integer h
  | real h => exact .real h
  | text => exact .text
  | list _ ih =>
    obtain ⟨limit, rfl⟩ := Nat.exists_eq_add_one_of_ne_zero (Nat.ne_of_gt (Nat.zero_lt_of_lt hle))
    exact .list fun item hitem => ih item hitem (Nat.le_of_succ_le_succ hle)
  | record _ ih =>
    obtain ⟨limit, rfl⟩ := Nat.exists_eq_add_one_of_ne_zero (Nat.ne_of_gt (Nat.zero_lt_of_lt hle))
    exact .record fun member hmember => ih member hmember (Nat.le_of_succ_le_succ hle)

theorem Legible.ne_plain {depth : Nat} {data : Data} (h : Legible depth data) (raw : String) :
    data ≠ plain raw := by
  rintro rfl
  cases h

theorem membersToJson_eq (members : List (String × Data)) :
    membersToJson members =
      Text.joinWith [','] (members.map fun m => textToJson m.1 ++ ':' :: m.2.toJson) := by
  induction members with
  | nil => rfl
  | cons member others ih =>
    obtain ⟨name, value⟩ := member
    cases others with
    | nil => simp [membersToJson, Text.joinWith]
    | cons next others => simp [membersToJson, ih, Text.joinWith]

end Data

namespace Json

open Data

theorem value_eq_scalar {depth : Nat} {c : Char} {cs : List Char} (hlist : c ≠ '[')
    (hrecord : c ≠ '\x7b') : value depth (c :: cs) = scalar (c :: cs) := by
  cases depth with
  | zero => rfl
  | succ depth =>
    unfold value valueWith
    split <;> simp_all

/-- A number is read back wherever a value may stand. -/
theorem reads_number {depth : Nat} {cs : List Char} {data : Data} {close : Char}
    (hclose : close = ']' ∨ close = '\x7d') (h : number cs = some (data, [])) :
    Opens close cs ∧ ∀ rest, EndsNumber rest → value depth (cs ++ rest) = some (data, rest) := by
  cases cs with
  | nil => cases h
  | cons c cs =>
    have hc := head_of_number h
    have hne {d : Char} (hdigit : d.isDigit = false) (hsign : d ≠ '-') : c ≠ d := by
      rintro rfl
      simp_all
    have hspace : isSpace c = false := by
      simp [isSpace, @hne ' ', @hne '\t', @hne '\n', @hne '\r']
    have hmarks : c ≠ '[' ∧ c ≠ '\x7b' ∧ c ≠ '"' ∧ c ≠ 'n' ∧ c ≠ 't' ∧ c ≠ 'f' := by
      refine ⟨?_, ?_, ?_, ?_, ?_, ?_⟩ <;> exact hne (by decide) (by decide)
    obtain ⟨hlist, hrecord, hquote, hnull, htrue, hfalse⟩ := hmarks
    have hends : c ≠ ']' ∧ c ≠ '\x7d' :=
      ⟨hne (by decide) (by decide), hne (by decide) (by decide)⟩
    refine ⟨opens_cons hclose hspace hends, fun rest hrest => ?_⟩
    have hscalar : scalar (c :: (cs ++ rest)) = number (c :: (cs ++ rest)) := by
      unfold scalar
      split <;> simp_all
    rw [List.cons_append, value_eq_scalar hlist hrecord, hscalar]
    exact number_append h hrest

/-- A written tree is read back from the front of a text. -/
theorem value_toJson {depth : Nat} {data : Data} (h : data.Legible depth) {close : Char}
    (hclose : close = ']' ∨ close = '\x7d') :
    ReadsBack close (value depth) toJson data := by
  induction h generalizing close with
  | null =>
    refine ⟨opens_cons hclose (by decide) (by decide), fun rest _ => ?_⟩
    exact value_eq_scalar (by decide) (by decide)
  | @bool depth flag =>
    cases flag with
    | true =>
      refine ⟨opens_cons hclose (by decide) (by decide), fun rest _ => ?_⟩
      exact value_eq_scalar (by decide) (by decide)
    | false =>
      refine ⟨opens_cons hclose (by decide) (by decide), fun rest _ => ?_⟩
      exact value_eq_scalar (by decide) (by decide)
  | integer h =>
    obtain ⟨hopen, hreads⟩ := reads_number hclose (number_integer h)
    exact ⟨hopen, hreads⟩
  | real h =>
    obtain ⟨hopen, hreads⟩ := reads_number hclose (number_real h)
    exact ⟨hopen, hreads⟩
  | text =>
    refine ⟨opens_cons hclose (by decide) (by decide), fun rest _ => ?_⟩
    rw [toJson, textToJson_append, value_eq_scalar (by decide) (by decide), scalar, text_escaped]
    rfl
  | @list depth items _ ih =>
    refine ⟨opens_cons hclose (by decide) (by decide), fun rest _ => ?_⟩
    have hitems : sequence ']' (value depth)
        (Text.joinWith [','] (items.map toJson) ++ ']' :: rest) = some (items, rest) :=
      sequence_joinWith (.inl rfl) fun item hitem => ih item hitem (.inl rfl)
    rw [toJson, itemsToJson_eq]
    simp only [List.cons_append, List.append_assoc, List.nil_append]
    rw [value, valueWith, hitems]
    rfl
  | @record depth members _ ih =>
    refine ⟨opens_cons hclose (by decide) (by decide), fun rest _ => ?_⟩
    have hmembers : sequence '\x7d' (member (value depth)) (Text.joinWith [','] (members.map
        fun m => textToJson m.1 ++ ':' :: m.2.toJson) ++ '\x7d' :: rest) = some (members, rest) :=
      sequence_joinWith (.inr rfl) fun member hmember =>
        member_reads (ih member hmember (.inr rfl))
    rw [toJson, membersToJson_eq]
    simp only [List.cons_append, List.append_assoc, List.nil_append]
    rw [value, valueWith, hmembers]
    rfl

end Json

namespace Data

/-- A written tree is read back from its text. -/
theorem ofJson?_toJson {data : Data} (h : data.Legible Json.maxDepth) :
    ofJson? (String.ofList data.toJson) = some data := by
  have hreads := Json.value_toJson h (.inl rfl)
  have hskip : Json.skipSpace (data.toJson ++ []) = _ := Json.skipSpace_append hreads.opens
  have hread := hreads.reads [] (by simp [Json.EndsNumber])
  rw [List.append_nil] at hskip hread
  rw [ofJson?, String.toList_ofList, hskip, hread]
  rfl

end Data

end FisheryRules
