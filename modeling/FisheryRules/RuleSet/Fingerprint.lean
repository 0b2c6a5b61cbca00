import FisheryRules.Digest.Sha256
import FisheryRules.Rule.Serialized
import FisheryRules.RuleSet.Basic
import FisheryRules.Text.LowerCase

/-!
# Fingerprints of definitions

The definitions of a category are told apart by a fingerprint that depends neither on their order
nor on the letter case of names, expressions and descriptions. It is the digest of the signatures
of the definitions, sorted.

## Main definitions

* `Snapshot.signatures` — the signatures, sorted.
* `Snapshot.fingerprintChars`, `Snapshot.fingerprint` — what is digested, and the digest.
-/
namespace FisheryRules

/-- What stands between the parts of a signature. -/
def signatureSeparator : Char := '\x1f'

/-- The signature with the given parts. -/
def signatureOf (parts : List (List Char)) : List Char :=
  Text.joinWith [signatureSeparator] parts

/-- The signature part for when and by whom a rule was last changed. -/
def changeParts (updated : Option Instant) (updatedBy : Option String) : List (List Char) :=
  [(updated.map (·.toOffset.toList)).getD [], (updatedBy.getD "").toList]

/-- The signature part for a text whose letter case does not matter. -/
def caselessPart (s : String) : List Char := Text.lowerChars s.toList

def SanityRule.signature (rule : SanityRule) : List Char :=
  signatureOf <|
    [caselessPart rule.name, caselessPart rule.expression, caselessPart (rule.description.getD "")]
      ++ changeParts rule.updated rule.updatedBy

def CustomRule.signature (rule : CustomRule) : List Char :=
  signatureOf <|
    [rule.guid.toList, caselessPart rule.name,
      Text.lowerChars (toData rule.sortedSegments).toJson, rule.actionChars,
      (toData rule.intervals).toJson, caselessPart (rule.description.getD "")]
      ++ changeParts rule.updated rule.updatedBy

def BusinessRule.signature (rule : BusinessRule) : List Char :=
  signatureOf <|
    [rule.brId.toList, rule.factType.name.toList, caselessPart rule.expression,
      rule.message.toList, rule.errorType.code.toList, rule.level.toList,
      (rule.propertyNames.getD "").toList]
      ++ changeParts rule.updated rule.updatedBy

namespace Snapshot

/-- The signatures of the definitions, in ascending order. -/
def signatures (snapshot : Snapshot) : List (List Char) :=
  let unsorted :=
    match snapshot with
    | sanity rules => rules.map SanityRule.signature
    | custom rules => rules.map CustomRule.signature
    | business rules => rules.map BusinessRule.signature
  unsorted.mergeSort fun a b => decide (String.ofList a ≤ String.ofList b)

/-- The code of the category, and every signature on a line of its own. -/
def fingerprintChars (snapshot : Snapshot) : List Char :=
  snapshot.category.code.toList ++ snapshot.signatures.flatMap ('\n' :: ·)

/-- The fingerprint of the definitions. -/
def fingerprint (snapshot : Snapshot) : String :=
  Sha256.hex (String.ofList snapshot.fingerprintChars)

end Snapshot

end FisheryRules
