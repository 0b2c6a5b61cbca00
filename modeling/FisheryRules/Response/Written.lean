import FisheryRules.Response.Dispatch
import FisheryRules.Response.Notification
import FisheryRules.Response.Serialized
import FisheryRules.Rule.Serialized

/-!
# Written summaries

What came of a dispatch, what the journal tells of it and what an observer receives, as data.
-/
namespace FisheryRules

/-- A failed action is written as its code and the reason. -/
instance : Written FailedAction where
  toData failed := .list [.text failed.action.code, .text failed.error.message]

instance : Written Summary where
  toData summary := .record [
    ("tickets", toData summary.tickets),
    ("alarms", toData summary.alarms),
    ("executed", toData summary.executed),
    ("failed", toData summary.failed)]

instance : Written Observation where
  toData
    | .event event => toData event
    | .lagged missed => .record [("lagged", toData missed)]

namespace Call

/-- A mail: address, subject and body. -/
def mailData? : Call → Option Data
  | sendMail address subject body => some (.list [.text address, .text subject, .text body])
  | _ => none

/-- A forwarded movement: the endpoint and the report. -/
def reportData? : Call → Option Data
  | sendReport endpoint report => some (.list [.text endpoint, toData report])
  | _ => none

/-- An audit entry: object, operation, subject and actor. -/
def auditData? : Call → Option Data
  | audit object operation subject actor =>
    some (.list [toData object, toData operation, .text subject, .text actor])
  | _ => none

end Call

/-- What a journal tells of mails, forwarded movements and audit entries, and of the events that
an observer receives. -/
def journalMembers (entries : List JournalEntry) (notifier : Option Notifier) :
    List (String × Data) :=
  let calls := entries.filterMap JournalEntry.done?
  let events := entries.filterMap JournalEntry.event?
  [("mails", .list (calls.filterMap Call.mailData?)),
    ("reports", .list (calls.filterMap Call.reportData?)),
    ("audits", .list (calls.filterMap Call.auditData?)),
    ("events", toData ((notifier.map (·.observe events)).getD []))]

end FisheryRules
