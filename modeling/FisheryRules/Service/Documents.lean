import FisheryRules.Markup.Reader
import FisheryRules.Service.Config

/-!
# Rule documents

Rule definitions are loaded from a document, or from the documents of a directory, in the order of
their names. No two definitions of a kind may share a key.

## Main definitions

* `FileTree` — what is found at a path.
* `RuleDocument.load` — the definitions at a path.
* `RuleStore.seed` — the rule store that a configuration asks for.
-/
namespace FisheryRules

/-- What is found at a path: the bytes of a file, or the entries of a directory. -/
inductive FileTree
  | file (bytes : ByteArray)
  | directory (entries : List (String × FileTree))

namespace FileTree

def isFile : FileTree → Bool
  | file _ => true
  | directory _ => false

end FileTree

/-- Finds what is at a path, if anything is. -/
abbrev FileLookup := (path : String) → Option FileTree

/-- The ending of a file name: what follows its last point. A point at the start does not
count. -/
def nameEnding? (name : String) : Option String :=
  let reversed := name.toList.reverse
  let ending := reversed.takeWhile (· != '.')
  let before := (reversed.drop ending.length).drop 1
  if before.isEmpty then none else some (String.ofList ending.reverse)

/-- Whether a file of a directory is a rule document. -/
def isDocumentName (name : String) : Bool :=
  (nameEnding? name).any ["json", "yaml", "yml"].contains

/-- The path of an entry of a directory. -/
def entryPath (directory name : String) : String :=
  if directory.endsWith "/" then directory ++ name else directory ++ "/" ++ name

/-- The first key that occurs twice under the same mark, at its second place. Marked keys are kept
as one text. -/
def firstRepeated? (seen : List String) : List (String × String) → Option String
  | [] => none
  | (mark, key) :: others =>
    if seen.contains (mark ++ key) then some key else firstRepeated? ((mark ++ key) :: seen) others

namespace RuleDocument

/-- The guids of the custom rules that have one. -/
def guids (document : RuleDocument) : List String :=
  (document.customRules.map (·.guid)).filter (!Text.isBlankText ·)

/-- The keys of the definitions, each with the mark of its category. Blank guids are no keys. -/
def keys (document : RuleDocument) : List (String × String) :=
  document.sanityRules.map (fun rule => ("sanity:", rule.name)) ++
    (document.guids.map (fun guid => ("custom:", guid)) ++
      document.businessRules.map (fun rule => ("business:", rule.brId)))

/-- Fails for the first definition that shares its key with one before it. -/
def checkKeys (document : RuleDocument) : Except RuleError Unit :=
  match firstRepeated? [] document.keys with
  | some id => .error (.duplicateRule id)
  | none => .ok ()

/-- Reads one document. A blank text is a document without definitions. -/
def ofFile (path : String) (bytes : ByteArray) : Except RuleError RuleDocument :=
  match String.fromUTF8? bytes with
  | none => .error (.unreadable path)
  | some text =>
    if Text.isBlankText text then .ok {}
    else
      match (Data.ofMarkup? text.toList).bind Data.read? with
      | some document => .ok document
      | none => .error (.unparsable path)

/-- Reads documents one after the other, and joins their definitions. -/
def ofFiles : List (String × ByteArray) → Except RuleError RuleDocument
  | [] => .ok {}
  | (path, bytes) :: others => do
    let first ← ofFile path bytes
    let rest ← ofFiles others
    return first.append rest

/-- The documents among the entries of a directory, in the order of their names. Directories are
passed over. -/
def documentsIn (path : String) (entries : List (String × FileTree)) : List (String × ByteArray) :=
  let files := entries.filterMap fun (name, tree) =>
    match tree with
    | .file bytes => if isDocumentName name then some (name, bytes) else none
    | .directory _ => none
  (files.mergeSort fun a b => decide (a.1 ≤ b.1)).map fun (name, bytes) =>
    (entryPath path name, bytes)

/-- The definitions at a path. -/
def load (path : String) (found : Option FileTree) : Except RuleError RuleDocument := do
  let document ← match found with
    | none => throw (.missingPath path)
    | some (.file bytes) => ofFile path bytes
    | some (.directory entries) => ofFiles (documentsIn path entries)
  document.checkKeys
  return document

end RuleDocument

/-- The rule store that a configuration asks for: with the definitions at its path, or empty. -/
def RuleStore.seed (config : Config) (files : FileLookup) (ids : IdSupply) :
    Except ModuleError RuleStore :=
  match config.rulesPath with
  | none => .ok {}
  | some path =>
    match RuleDocument.load path (files path) with
    | .ok document => .ok (RuleStore.ofDocument ids document).1
    | .error error => .error error.toModule

end FisheryRules
