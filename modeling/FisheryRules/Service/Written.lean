import FisheryRules.Evaluation.Written
import FisheryRules.Response.Written
import FisheryRules.Service.Monitor

/-!
# Written service

The configuration, what came of a batch, and the failures of the module, as data.
-/
namespace FisheryRules

instance : Written GrammarError where
  toData error :=
    let code :=
      match error with
      | .missingHeader => "MissingHeader"
      | .noParameters => "NoParameters"
      | .missingTemplate => "MissingTemplate"
      | .unterminated _ => "UnterminatedTemplate"
      | .unknownPlaceholder _ => "UnknownPlaceholder"
    .failure code error.message

/-- The code of a failure. -/
def RuleError.code : RuleError → String
  | missingPath _ => "MissingPath"
  | unreadable _ => "Io"
  | unparsable _ => "Parse"
  | duplicateRule _ => "DuplicateRule"
  | grammar _ => "Template"
  | refresh (.store _) => "Store"
  | refresh (.build ..) => "Build"
  | shuttingDown => "ShuttingDown"

instance : Written RuleError where
  toData error := .failure error.code error.message

instance : Written ModuleError where
  toData error :=
    let code :=
      match error with
      | .configuration _ => "Config"
      | .storeUnavailable _ => "StoreUnavailable"
      | .engine _ => "Engine"
    .failure code error.message

instance : Written Deployment where
  toData
    | .development => .text "Development"
    | .staging => .text "Staging"
    | .production => .text "Production"

instance : Written Config where
  toData config := .record [
    ("environment", toData config.deployment),
    ("production", .bool (config.deployment == .production)),
    ("nodeName", .text config.nodeName),
    ("logLevel", toData config.logLevel),
    ("refreshSecs", toData config.refreshSeconds),
    ("alwaysTicket", .bool config.alwaysTicket),
    ("systemUser", .text config.systemUser),
    ("rulesPath", toData config.rulesPath),
    ("silenceSecs", toData config.silenceSeconds)]

instance : Written BatchOutcome where
  toData outcome := .record [
    ("report", toData outcome.report),
    ("dispatched", toData outcome.dispatched)]

end FisheryRules
