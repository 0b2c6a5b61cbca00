import FisheryRules.Registry.Cache
import FisheryRules.RuleSet.Serialized

/-!
# Written caches

The state of a rule set cache, the outcome of a refresh and the failures of a store, as data.
-/
namespace FisheryRules

instance : Written StoreError where
  toData error :=
    let code :=
      match error with
      | .unavailable _ => "Unavailable"
      | .notFound _ => "NotFound"
    .failure code error.message

instance : Written SlotState where
  toData
    | .empty => .text "Empty"
    | .building => .text "Building"
    | .ready => .text "Ready"

instance : Written RefreshOutcome where
  toData
    | .unchanged version =>
      .record [("outcome", .text "Unchanged"), ("version", toData version)]
    | .rebuilt version rules failed => .record [
        ("outcome", .text "Rebuilt"),
        ("version", toData version),
        ("rules", toData rules),
        ("failed", toData failed)]
    | .emptied => .record [("outcome", .text "Emptied")]

/-- What is published for a category: its version and the ids of its rules. -/
def Cache.slotData (cache : Cache) (category : RuleCategory) : Data :=
  let published := cache.current category
  .record [
    ("state", toData (cache.state category)),
    ("version", toData (published.map (·.version))),
    ("rules", toData (published.map fun set => set.rules.map (·.id))),
    ("failed", toData (cache.failedRules category))]

instance : Written Cache where
  toData cache := .record (RuleCategory.all.map fun c => (c.code, cache.slotData c))

end FisheryRules
