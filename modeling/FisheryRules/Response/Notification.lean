import FisheryRules.Response.Contact

/-!
# Notifications

Observers of tickets and alarms receive the announced events. A channel keeps only so many of
them: an observer that falls behind is first told how many it missed.

## Main definitions

* `Observation` — what an observer receives.
* `Notifier.observe` — what an observer receives of events it has not seen.
-/
namespace FisheryRules

/-- What an observer receives. -/
inductive Observation
  | event (event : NotificationEvent)
  | lagged (missed : Nat)
deriving DecidableEq

/-- Channel for events. -/
structure Notifier where
  capacity : Nat := 256
deriving DecidableEq

namespace Notifier

/-- The number of events that the channel keeps: a power of two. -/
def size (notifier : Notifier) : Nat := notifier.capacity.nextPowerOfTwo

/-- What an observer receives of the events since it last looked. -/
def observe (notifier : Notifier) (events : List NotificationEvent) : List Observation :=
  let missed := events.length - notifier.size
  if missed = 0 then events.map .event
  else .lagged missed :: (events.drop missed).map .event

end Notifier

end FisheryRules
