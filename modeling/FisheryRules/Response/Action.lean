import FisheryRules.Rule.Definition

/-!
# Declared actions

The action list of a custom rule, `ACTION,VALUE;ACTION,VALUE`, as it is read when the rule fires.

## Main definitions

* `DeclaredAction`, `DeclaredAction.parseList` — an entry, and the entries of a list.
* `TicketPolicy` — when a firing opens a ticket.
-/
namespace FisheryRules

/-- Entry of an action list. -/
structure DeclaredAction where
  kind : ActionKind
  /-- Empty when no value is declared. -/
  value : String
deriving DecidableEq

/-- When the firing of a custom rule opens a ticket. -/
inductive TicketPolicy
  /-- Every firing opens a ticket and mails the subscribers; a declared ticket adds none. -/
  | always
  /-- A firing opens the tickets that the rule declares. -/
  | ifDeclared
deriving DecidableEq

/-- The policy for a switch that asks for a ticket with every firing. -/
def TicketPolicy.ofFlag (alwaysTicket : Bool) : TicketPolicy :=
  if alwaysTicket then always else ifDeclared

namespace DeclaredAction

/-- The value of an entry: the text after the first comma. The word `null` stands for none. -/
def entryValue (entry : List Char) : List Char :=
  let value := Text.trim ((entry.dropWhile (· != ',')).drop 1)
  if value == "null".toList then [] else value

/-- Reads an entry. Nothing comes of an unknown action. -/
def ofEntry? (entry : List Char) : Option DeclaredAction :=
  (ActionKind.parse (entry.takeWhile (· != ','))).toOption.map fun kind =>
    ⟨kind, String.ofList (entryValue entry)⟩

/-- The entries of an action list. Blank entries and unknown actions are skipped. -/
def parseList (actions : List Char) : List DeclaredAction :=
  (((Text.pieces (· == ';') actions).map Text.trim).filter (!·.isEmpty)).filterMap ofEntry?

end DeclaredAction

end FisheryRules
