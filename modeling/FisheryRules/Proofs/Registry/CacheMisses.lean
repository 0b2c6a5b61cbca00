import FisheryRules.Proofs.Registry.CacheHits
import FisheryRules.Proofs.RuleSet.Separation

/-!
# Cache misses

A refresh that lists definitions which say something else than those of the set in service builds a
new set, as long as the fingerprint can show the difference: `Cache.refresh_of_difference`. The
differences that it cannot show are those of `Snapshot.Confused`.
-/
namespace FisheryRules

/-- With definitions of another fingerprint than that of the published set, a slot is cleared or
rebuilt. -/
theorem Slot.settle_of_ne {slot : Slot} {published : RuleSet} (compiler : Compiler)
    {snapshot : Snapshot} (hpublished : slot.published = some published)
    (hne : published.fingerprint ≠ snapshot.fingerprint) :
    slot.settle compiler snapshot =
      if snapshot.isEmpty then (.ok .emptied, slot.clear)
      else slot.rebuild compiler snapshot snapshot.fingerprint := by
  simp [settle, hpublished, hne]

namespace Cache

/-- Snapshots whose definitions say different things are digested from different bytes; unless the
digests of these bytes collide, their fingerprints differ, and when the definitions of one follow
those of the other a refresh takes the published set out of service or builds a new one. -/
theorem refresh_of_difference {a b : Snapshot} (category : a.category = b.category)
    (legible : a.Legible b)
    (difference :
      ¬ (a.definitions.map Definition.content).Perm (b.definitions.map Definition.content)) :
    a.digested ≠ b.digested ∧
      ((a.fingerprint = b.fingerprint → a.digested = b.digested) →
        a.fingerprint ≠ b.fingerprint ∧
        ∀ (cache : Cache) (listing : Listing) (published : RuleSet),
          cache.current b.category = some published → published.fingerprint = a.fingerprint →
          listing.answer b.category = .ok b →
          let slot := cache.slots b.category
          cache.refresh listing b.category =
            if b.isEmpty then (.ok .emptied, cache.setSlot b.category slot.clear)
            else
              let built := slot.rebuild cache.compiler b b.fingerprint
              (built.1, cache.setSlot b.category built.2)) := by
  have hbytes : a.digested ≠ b.digested := fun heq =>
    difference (Snapshot.content_perm_of_digested_eq category legible heq)
  refine ⟨hbytes, fun hcollision => ?_⟩
  have hfingerprint : a.fingerprint ≠ b.fingerprint := fun heq => hbytes (hcollision heq)
  refine ⟨hfingerprint, fun cache listing published hpublished hlabel hlisted => ?_⟩
  have hsettle := Slot.settle_of_ne cache.compiler hpublished (hlabel.trans_ne hfingerprint)
  simp only [refresh, hlisted, Slot.absorb, hsettle]
  split <;> rfl

/-- A rule that gets a description is compiled once more. -/
theorem refresh_of_difference_description :
    let plain : SanityRule := { name := "Flag", expression := "latitude == null" }
    let described : SanityRule := { plain with description := some "x" }
    let a : Snapshot := .sanity [plain]
    let b : Snapshot := .sanity [described]
    let earlier : RuleStore := { sanity := Table.empty.put plain }
    let store : RuleStore := { sanity := Table.empty.put described }
    a.category = b.category ∧ a.Legible b ∧
      ¬ (a.definitions.map Definition.content).Perm (b.definitions.map Definition.content) ∧
      a.digested ≠ b.digested ∧ a.fingerprint ≠ b.fingerprint ∧
      ∃ rules failed,
        ((after Bundled.compiler [.refresh .sanity earlier]).refresh store .sanity).1 =
          .ok (.rebuilt 2 rules failed) := by
  intro plain described a b earlier store
  have hall {P : Definition → Prop} (hplain : P (.sanity plain))
      (hdescribed : P (.sanity described)) :
      ∀ definition ∈ a.definitions ++ b.definitions, P definition := by
    simp only [a, b, Snapshot.definitions, List.map_singleton, List.singleton_append,
      List.forall_mem_cons]
    exact ⟨hplain, hdescribed, List.forall_mem_nil _⟩
  have hlegible : a.Legible b :=
    { separable := hall ⟨by decide, by decide, List.forall_mem_nil _⟩
        ⟨by decide, by decide, List.forall_mem_nil _⟩
      updated := hall (by rintro _ ⟨⟩) (by rintro _ ⟨⟩)
      description := by decide
      updatedBy := by decide }
  have hdifference : ¬ (a.definitions.map Definition.content).Perm
      (b.definitions.map Definition.content) := by
    decide +kernel
  obtain ⟨hbytes, hrefresh⟩ := refresh_of_difference (a := a) (b := b) rfl hlegible hdifference
  have hcollision : a.fingerprint = b.fingerprint → a.digested = b.digested := fun heq =>
    absurd heq (by decide +kernel)
  obtain ⟨hfingerprint, hrefresh⟩ := hrefresh hcollision
  obtain ⟨set, hset, -⟩ := compile_settles a a.fingerprint 1
  obtain ⟨fresh, hfresh, -⟩ := compile_settles b b.fingerprint 2
  have hlisted : (earlier : Listing).answer .sanity = .ok a := rfl
  have hlisted' : (store : Listing).answer .sanity = .ok b := rfl
  have hslot := slots_after_refresh hlisted rfl hset
  have hcurrent :
      (after Bundled.compiler [.refresh .sanity earlier]).current .sanity = some set := by
    rw [current, hslot]
  have hresult := hrefresh _ store set hcurrent (Compiler.compile_labels hset).2.1 hlisted'
  refine ⟨rfl, hlegible, hdifference, hbytes, hfingerprint, fresh.rules.length,
    fresh.failed.length, ?_⟩
  have hsome : b.isEmpty = false := rfl
  have hslots : b.category = .sanity := rfl
  rw [hslots, hslot, compiler_after, hsome] at hresult
  rw [hresult]
  simp [Slot.rebuild, Slot.beginBuild, hfresh]

end Cache

end FisheryRules
