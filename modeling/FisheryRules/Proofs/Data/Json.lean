import FisheryRules.Proofs.Time.Timestamp
import FisheryRules.Rule.Serialized

/-!
# Written JSON

A JSON text has no control characters, and the windows of a rule are told apart by their JSON text.
-/
namespace FisheryRules

namespace Data

/-! ## Characters -/

def isPrintable (c : Char) : Bool := 0x20 ≤ c.toNat

theorem all_of_isDigit {cs : List Char} (h : ∀ c ∈ cs, c.isDigit = true) :
    cs.all isPrintable = true := by
  refine List.all_eq_true.2 fun c hc => decide_eq_true ?_
  have hdigit := h c hc
  simp only [Char.isDigit, Bool.and_eq_true, decide_eq_true_eq, UInt32.le_iff_toNat_le] at hdigit
  exact Nat.le_trans (by decide) hdigit.1

@[simp] theorem all_toDigits (n : Nat) : (Nat.toDigits 10 n).all isPrintable = true :=
  all_of_isDigit fun _ => Nat.isDigit_of_mem_toDigits (by decide) (by decide)

theorem all_integer (value : Int) : (toString value).toList.all isPrintable = true := by
  cases value with
  | ofNat n => simp [toString, Int.repr]
  | negSucc n =>
    simp [toString, Int.repr]
    decide

/-- Control characters are escaped. -/
theorem all_escapeChar (c : Char) : (escapeChar c).all isPrintable = true := by
  have hhex (n : Nat) : isPrintable (hexDigit n) = true := by
    have hall : ∀ k < 16, isPrintable (Nat.digitChar k) = true := by decide
    exact hall _ (Nat.mod_lt _ (by decide))
  have hmarks : isPrintable '\\' = true ∧ isPrintable '"' = true ∧ isPrintable 'n' = true ∧
      isPrintable 'r' = true ∧ isPrintable 't' = true ∧ isPrintable 'b' = true ∧
      isPrintable 'f' = true ∧ isPrintable 'u' = true ∧ isPrintable '0' = true := by decide
  fun_cases escapeChar c with
  | case9 => simp_all [isPrintable]
  | _ => simp [hmarks, hhex]

theorem all_textToJson (s : String) : (textToJson s).all isPrintable = true := by
  have hquote : isPrintable '"' = true := by decide
  simp [textToJson, List.all_flatMap, all_escapeChar, hquote]

/-- A number is spelled with digits, a point and a sign, or by a word. -/
theorem all_toText (x : Binary64) : x.toText.toList.all isPrintable = true := by
  have hmarks : isPrintable '0' = true ∧ isPrintable '.' = true ∧ isPrintable '-' = true := by
    decide
  have hwords : "NaN".toList.all isPrintable = true ∧ "inf".toList.all isPrintable = true := by
    decide
  have hpart {n : Nat} {cs : List Char} (h : cs ⊆ Nat.toDigits 10 n) : cs.all isPrintable = true :=
    List.all_eq_true.2 fun c hc => List.all_eq_true.1 (all_toDigits n) c (h hc)
  have hpositional (digits : Nat) (k : Int) :
      (Binary64.positional digits k).all isPrintable = true := by
    simp only [Binary64.positional]
    split
    · simp [List.all_replicate, hmarks]
    · split
      · simp only [List.all_append, List.all_cons, hmarks, hpart (List.take_subset _ _),
          hpart (List.drop_subset _ _), Bool.and_self]
      · simp [List.all_replicate, hmarks]
  have hsigned {body : List Char} (h : body.all isPrintable = true) :
      (if x.isNegative then '-' :: body else body).all isPrintable = true := by
    split
    · rw [List.all_cons, hmarks.2.2, h, Bool.and_self]
    · exact h
  unfold Binary64.toText
  split
  · exact hwords.1
  · rw [String.toList_ofList]
    refine hsigned ?_
    split
    · exact hwords.2
    · split
      · exact (Bool.and_true _).trans hmarks.1
      · exact hpositional _ _

theorem all_realToJson (x : Binary64) : (realToJson x).all isPrintable = true := by
  simp only [realToJson]
  split
  · decide
  · split
    · exact all_toText x
    · rw [List.all_append, all_toText]
      decide

mutual

theorem all_toJson : (data : Data) → data.toJson.all isPrintable = true
  | null | unnamed => by decide
  | bool value => by cases value <;> decide
  | integer value => all_integer value
  | real value => all_realToJson value
  | text value | plain value => all_textToJson value
  | list items | sequence items => by
    simp only [toJson, List.cons_append, List.all_cons, List.all_append, all_itemsToJson items]
    decide
  | record members => by
    simp only [toJson, List.cons_append, List.all_cons, List.all_append, all_membersToJson members]
    decide

theorem all_itemsToJson : (items : List Data) → (itemsToJson items).all isPrintable = true
  | [] => by decide
  | [item] => all_toJson item
  | item :: next :: others => by
    simp only [itemsToJson, List.all_append, List.all_cons, all_toJson item,
      all_itemsToJson (next :: others)]
    decide

theorem all_membersToJson :
    (members : List (String × Data)) → (membersToJson members).all isPrintable = true
  | [] => by decide
  | [(name, value)] => by
    simp only [membersToJson, List.all_append, List.all_cons, all_textToJson, all_toJson value]
    decide
  | (name, value) :: next :: others => by
    simp only [membersToJson, List.all_append, List.all_cons, all_textToJson, all_toJson value,
      all_membersToJson (next :: others)]
    decide

end

end Data

/-! ## Windows -/

/-- The written forms of values with a property are told apart at the front of a text. -/
def Data.PrefixFree {α : Type} [Written α] (P : α → Prop) : Prop :=
  ∀ a b, P a → P b → ∀ rest rest' : List Char,
    (toData a).toJson ++ rest = (toData b).toJson ++ rest' → a = b ∧ rest = rest'

namespace Data

theorem escapeChar_self {c : Char} (hlow : 0x20 ≤ c.toNat) (hquote : c ≠ '"')
    (hbackslash : c ≠ '\\') : escapeChar c = [c] := by
  have hne {d : Char} (hd : d.toNat < 0x20) : c ≠ d := fun heq => by
    subst heq
    omega
  have hbreaks : c ≠ '\n' ∧ c ≠ '\r' ∧ c ≠ '\t' :=
    ⟨hne (by decide), hne (by decide), hne (by decide)⟩
  have hbackspace : c.toNat ≠ 0x08 := by omega
  have hfeed : c.toNat ≠ 0x0C := by omega
  have hcontrol : ¬ c.toNat < 0x20 := by omega
  simp [escapeChar, hquote, hbackslash, hbreaks, hbackspace, hfeed, hcontrol]

theorem escapeChar_of_isStampChar {c : Char} (h : Timestamp.isStampChar c = true) :
    escapeChar c = [c] := by
  have hmarks : ['-', '+', 'T', ':', '.', 'Z'].all isPrintable = true := by decide
  refine escapeChar_self ?_ (fun heq => absurd (heq ▸ h) (by decide))
    (fun heq => absurd (heq ▸ h) (by decide))
  simp only [Timestamp.isStampChar, Bool.or_eq_true, List.contains_iff_mem] at h
  obtain hdigit | hmark := h
  · have hprintable : [c].all isPrintable = true := all_of_isDigit (by simpa using hdigit)
    simpa [isPrintable] using hprintable
  · simpa [isPrintable] using List.all_eq_true.1 hmarks c hmark

theorem isStampChar_of_mem_write {t : Instant} {c : Char} (h : c ∈ Timestamp.write ['Z'] t) :
    Timestamp.isStampChar c = true :=
  List.all_eq_true.1 (Timestamp.all_write (by decide) t) c h

/-- The characters of a timestamp stand for themselves. -/
theorem instant_toJson (t : Instant) :
    (toData t).toJson = '"' :: (Timestamp.write ['Z'] t ++ ['"']) := by
  have hplain : (Timestamp.write ['Z'] t).flatMap escapeChar = Timestamp.write ['Z'] t := by
    rw [List.flatMap_congr fun c hc => escapeChar_of_isStampChar (isStampChar_of_mem_write hc)]
    exact List.flatMap_singleton' _
  simp [toData, toJson, textToJson, Instant.toZulu, hplain]

theorem quote_notMem_write (t : Instant) : '"' ∉ Timestamp.write ['Z'] t :=
  fun hmem => absurd (isStampChar_of_mem_write hmem) (by decide)

theorem instant_prefixFree : PrefixFree Instant.IsProper := by
  intro s t hs ht rest rest' h
  simp only [instant_toJson, List.cons_append, List.append_assoc, List.nil_append] at h
  obtain ⟨hwritten, hrest⟩ := Text.append_separator_inj (quote_notMem_write s)
    (quote_notMem_write t) (List.cons.inj h).2
  exact ⟨Timestamp.write_injective hs ht hwritten, hrest⟩

/-- An absent value is written differently from any value that is not written as it. -/
theorem option_prefixFree {α : Type} [Written α] {P : α → Prop} (h : PrefixFree P)
    (hnull : ∀ (a : α) rest rest', Data.toJson (toData a) ++ rest ≠ null.toJson ++ rest') :
    PrefixFree fun o : Option α => ∀ a ∈ o, P a := by
  intro o o' ho ho' rest rest' heq
  cases o with
  | none =>
    cases o' with
    | none => exact ⟨rfl, List.append_cancel_left heq⟩
    | some b => exact absurd heq.symm (hnull b rest' rest)
  | some a =>
    cases o' with
    | none => exact absurd heq (hnull a rest rest')
    | some b =>
      obtain ⟨rfl, hrest⟩ := h a b (ho a rfl) (ho' b rfl) rest rest' heq
      exact ⟨rfl, hrest⟩

end Data

/-- The ends of the window are proper instants. -/
def TimeInterval.IsProper (interval : TimeInterval) : Prop :=
  (∀ t ∈ interval.start, t.IsProper) ∧ ∀ t ∈ interval.stop, t.IsProper

namespace Data

theorem interval_prefixFree : PrefixFree TimeInterval.IsProper := by
  have hends := option_prefixFree instant_prefixFree fun a rest rest' heq => by
    rw [instant_toJson] at heq
    exact absurd (List.cons.inj heq).1 (by decide)
  rintro ⟨start, stop⟩ ⟨start', stop'⟩ ⟨hstart, hstop⟩ ⟨hstart', hstop'⟩ rest rest' h
  have hform (a b : Option Instant) (tail : List Char) :
      (toData (⟨a, b⟩ : TimeInterval)).toJson ++ tail =
        "\x7b\"start\":".toList ++ ((toData a).toJson ++
          (",\"end\":".toList ++ ((toData b).toJson ++ '\x7d' :: tail))) := by
    have hnames : textToJson "start" = "\"start\"".toList ∧
        textToJson "end" = "\"end\"".toList := by decide
    have hrecord : toData (⟨a, b⟩ : TimeInterval) =
        .record [("start", toData a), ("end", toData b)] := rfl
    simp [hrecord, toJson, membersToJson, hnames]
  rw [hform, hform] at h
  obtain ⟨rfl, hend⟩ := hends start start' hstart hstart' _ _ (List.append_cancel_left h)
  obtain ⟨rfl, hrest⟩ := hends stop stop' hstop hstop' _ _ (List.append_cancel_left hend)
  exact ⟨rfl, (List.cons.inj hrest).2⟩

theorem itemsToJson_eq (items : List Data) :
    itemsToJson items = Text.joinWith [','] (items.map toJson) := by
  induction items with
  | nil => rfl
  | cons item others ih =>
    cases others with
    | nil => simp [itemsToJson, Text.joinWith]
    | cons next others => simp [itemsToJson, ih, Text.joinWith]

/-- Forms that stand one after the other up to a bracket tell the contents apart, when each form
tells its content apart at the front of a text and does not begin with the bracket. -/
theorem joinWith_bracket_inj {α β : Type} {form : α → List Char} {content : α → β} {xs ys : List α}
    (hitem : ∀ x ∈ xs, ∀ y ∈ ys, ∀ rest rest', form x ++ rest = form y ++ rest' →
      content x = content y ∧ rest = rest')
    (hclose : ∀ x ∈ xs ++ ys, ∀ rest rest', form x ++ rest ≠ ']' :: rest')
    (h : Text.joinWith [','] (xs.map form) ++ [']'] =
      Text.joinWith [','] (ys.map form) ++ [']']) :
    xs.map content = ys.map content := by
  -- The text after an item tells whether another one follows.
  have hcons (x : α) (others : List α) :
      Text.joinWith [','] ((x :: others).map form) ++ [']'] =
        form x ++ (if others.isEmpty then [']']
          else ',' :: (Text.joinWith [','] (others.map form) ++ [']'])) := by
    cases others <;> simp [Text.joinWith]
  obtain ⟨hcloseXs, hcloseYs⟩ := List.forall_mem_append.1 hclose
  clear hclose
  induction xs generalizing ys with
  | nil =>
    cases ys with
    | nil => rfl
    | cons y ys =>
      rw [hcons] at h
      exact absurd h.symm (hcloseYs y List.mem_cons_self _ _)
  | cons x xs ih =>
    cases ys with
    | nil =>
      rw [hcons] at h
      exact absurd h (hcloseXs x List.mem_cons_self _ _)
    | cons y ys =>
      rw [hcons, hcons] at h
      obtain ⟨hcontent, hrest⟩ := hitem x List.mem_cons_self y List.mem_cons_self _ _ h
      rw [List.map_cons, List.map_cons, hcontent]
      suffices hothers : xs.map content = ys.map content by rw [hothers]
      cases xs with
      | nil =>
        cases ys with
        | nil => rfl
        | cons y' ys => exact absurd (List.cons.inj hrest).1 (by decide)
      | cons x' xs =>
        cases ys with
        | nil => exact absurd (List.cons.inj hrest).1 (by decide)
        | cons y' ys =>
          exact ih (fun z hz w hw => hitem z (.tail _ hz) w (.tail _ hw)) (List.cons.inj hrest).2
            (fun z hz => hcloseXs z (.tail _ hz)) (fun w hw => hcloseYs w (.tail _ hw))

/-- Lists of values whose forms open with a bracket of their own are told apart by their forms. -/
theorem list_injective {α : Type} [Written α] {P : α → Prop} (hitem : PrefixFree P)
    (hclose : ∀ (a : α) rest rest', (toData a).toJson ++ rest ≠ ']' :: rest')
    {xs ys : List α} (hxs : ∀ x ∈ xs, P x) (hys : ∀ y ∈ ys, P y)
    (h : (toData xs).toJson = (toData ys).toJson) : xs = ys := by
  have hitems := (List.cons.inj h).2
  rw [itemsToJson_eq, itemsToJson_eq, List.map_map, List.map_map] at hitems
  have hcontents : xs.map id = ys.map id :=
    joinWith_bracket_inj (fun x hx y hy => hitem x y (hxs x hx) (hys y hy))
      (fun x _ => hclose x) hitems
  simpa using hcontents

/-- The windows of a rule are told apart by their form. -/
theorem intervals_injective {xs ys : List TimeInterval} (hxs : ∀ x ∈ xs, x.IsProper)
    (hys : ∀ y ∈ ys, y.IsProper) (h : (toData xs).toJson = (toData ys).toJson) : xs = ys := by
  refine list_injective interval_prefixFree (fun interval rest rest' heq => ?_) hxs hys h
  exact absurd (List.cons.inj heq).1 (by decide)

end Data

end FisheryRules
