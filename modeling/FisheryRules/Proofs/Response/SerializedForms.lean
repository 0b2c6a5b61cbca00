import FisheryRules.Proofs.Response.Faithful

/-!
# Serialized forms

Everything that is stored, sent or forwarded as a JSON text is read from that text as it was:
`serializedForms_reread`. Its numbers have to be finite, and its instants in the years that are
written with four digits.
-/
namespace FisheryRules

open Faithful (Ordinary Present reread?_eq)

/-- Values are read back from the JSON texts that they are written as, whichever of their members
are absent, empty or set. -/
theorem serializedForms_reread :
    (∀ document : RuleDocument, document.IsOrdinary → reread? document = some document) ∧
    (∀ rule : CustomRule, rule.IsOrdinary → reread? rule = some rule) ∧
    (∀ rule : SanityRule, rule.IsOrdinary → reread? rule = some rule) ∧
    (∀ rule : BusinessRule, rule.IsOrdinary → reread? rule = some rule) ∧
    (∀ fact : Fact, fact.IsOrdinary → reread? fact = some fact) ∧
    (∀ report : PreviousReport, report.IsOrdinary → reread? report = some report) ∧
    (∀ alarm : Alarm, alarm.IsOrdinary → reread? alarm = some alarm) ∧
    (∀ ticket : Ticket, ticket.IsOrdinary → reread? ticket = some ticket) ∧
    (∀ report : EndpointReport, report.IsOrdinary → reread? report = some report) ∧
    (∀ event : NotificationEvent, reread? event = some event) := by
  refine ⟨?_, ?_, ?_, ?_, ?_, ?_, ?_, ?_, ?_, ?_⟩
  · exact fun document h => reread?_eq h (by decide)
  · exact fun rule h => reread?_eq h (by decide)
  · exact fun rule h => reread?_eq h (by decide)
  · exact fun rule h => reread?_eq h (by decide)
  · exact fun fact h => reread?_eq h (by decide)
  · exact fun report h => reread?_eq h (by decide)
  · exact fun alarm h => reread?_eq h (by decide)
  · exact fun ticket h => reread?_eq h (by decide)
  · exact fun report h => reread?_eq h (by decide)
  · exact fun event => reread?_eq trivial (by decide)

/-- A document with a rule of each kind, a fact with everything that a fact may carry, and what
may come of them. -/
theorem serializedForms_reread_samples :
    let time : Instant := ⟨1700000000, 500000000⟩
    let number : Binary64 := ⟨0x404CC00000000000⟩
    let rule : CustomRule :=
      { guid := "r1"
        name := "Vessels in \"BEL\""
        segments := [⟨"(", .area, .areaCode, .eq, "BEL", ")", .none, 1⟩]
        actions := [⟨.email, some "fmc@example.org", 1⟩]
        intervals := [⟨some time, none⟩]
        subscriptions := [⟨"owner", .ticket⟩]
        updated := some time }
    let sanity : SanityRule :=
      { name := "Time missing", expression := "positionTime == null", updated := some time }
    let business : BusinessRule :=
      ⟨"SALE-1", .salesPrice, "true", "no price", .error, "L01", none, true, some time, some "fmc"⟩
    let document : RuleDocument := ⟨[sanity], [rule], [business]⟩
    let raw : RawMovement := { latitude := some number, positionTime := some time }
    let movement : Movement := { flagState := some "BEL", reportedSpeed := some number }
    let fact : Fact :=
      { id := ⟨Vector.replicate 32 7⟩
        payload := .movement movement
        outcomes := [⟨.error, "too fast", "SALE-1", "L01", ""⟩]
        ok := false
        uniqueIds := .ofList ["trip 2", "trip 1"]
        source := some ⟨3, "Report[1]"⟩ }
    let previous : PreviousReport := ⟨"v1", none, time⟩
    let alarm : Alarm :=
      ⟨"a1", .opened, time, some raw, none, some "v1", "UVMS", true, [⟨"i1", "s1", "Time missing"⟩]⟩
    let ticket : Ticket := ⟨"t1", .opened, time, "r", "r1", some "m1", none, none, "UVMS"⟩
    let endpoint : EndpointReport :=
      ⟨"r", "BEL", time, some movement, [⟨"reports", "https://bel.example.org"⟩], none, none⟩
    reread? document = some document ∧ reread? rule = some rule ∧ reread? sanity = some sanity ∧
      reread? business = some business ∧ reread? fact = some fact ∧
      reread? previous = some previous ∧ reread? alarm = some alarm ∧
      reread? ticket = some ticket ∧ reread? endpoint = some endpoint ∧
      reread? (NotificationEvent.ticketCreated "t1") = some (.ticketCreated "t1") := by
  intro time number rule sanity business document raw movement fact previous alarm ticket endpoint
  obtain ⟨hdocuments, hrules, hsanities, hbusinesses, hfacts, hprevious, halarms, htickets,
    hendpoints, hevents⟩ := serializedForms_reread
  have htime : Ordinary time := ⟨⟨by decide, by decide⟩, by decide, by decide⟩
  have hnumber : Ordinary number := (by decide : number.isFinite = true)
  have hnone {α : Type} [Serialized α] [Faithful α] [Present α] :
      Ordinary (none : Option α) := nofun
  have hsome {α : Type} [Serialized α] [Faithful α] [Present α] {a : α} (h : Ordinary a) :
      Ordinary (some a) := fun _ ha => Option.some.inj ha ▸ h
  have hone {α : Type} [Serialized α] [Faithful α] {a : α} (h : Ordinary a) : Ordinary [a] :=
    List.forall_mem_singleton.2 h
  have hrule : rule.IsOrdinary := ⟨hone ⟨hsome htime, hnone⟩, hnone, hsome htime⟩
  have hsanity : sanity.IsOrdinary := ⟨hsome htime⟩
  have hbusiness : business.IsOrdinary := ⟨hsome htime⟩
  have hraw : raw.IsOrdinary := ⟨hsome hnumber, hnone, hnone, hsome htime, hnone, hnone, hnone⟩
  have hmovement : movement.IsOrdinary :=
    ⟨hnone, hnone, hnone, hnone, hsome hnumber, hnone, hnone, hnone⟩
  exact ⟨hdocuments _ ⟨hone hsanity, hone hrule, hone hbusiness⟩, hrules _ hrule,
    hsanities _ hsanity, hbusinesses _ hbusiness, hfacts _ ⟨hmovement⟩, hprevious _ ⟨htime⟩,
    halarms _ ⟨htime, hsome hraw⟩, htickets _ ⟨htime⟩, hendpoints _ ⟨htime, hsome hmovement⟩,
    hevents _⟩

end FisheryRules
