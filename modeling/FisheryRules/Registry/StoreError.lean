/-!
# Store failures

Why a call of the rule store, the incident store or the audit log failed.
-/
namespace FisheryRules

inductive StoreError
  | unavailable (reason : String)
  | notFound (record : String)
deriving DecidableEq

def StoreError.message : StoreError → String
  | unavailable reason => s!"store unavailable: {reason}"
  | notFound record => s!"record not found: {record}"

end FisheryRules
