import Mathlib.Data.List.Flatten
import Mathlib.Data.List.Forall2
import ScriptAudit.Proofs.RuleIndependence
import ScriptAudit.Scan.Source

namespace ScriptAudit

/-- What the first rule flags the second flags too, and they say the same of it. -/
structure Rule.Weaker (r q : Rule) : Prop where
  id : r.id = q.id
  usesSource : r.usesSource = q.usesSource
  message : r.message = q.message
  flags : ∀ v, r.flags v = some true → q.flags v = some true

/-- The first settings ask for no more than the second, and suppress by the same keyword. -/
structure Settings.Laxer (b a : Settings) : Prop where
  keyword : b.suppressionKeyword = a.suppressionKeyword
  params : a.maxParams ≤ b.maxParams
  lines : a.maxFunctionLines ≤ b.maxFunctionLines
  calls : b.debugCalls ⊆ a.debugCalls
  disabled : a.disabledRules ⊆ b.disabledRules

namespace Rule

theorem Weaker.refl (r : Rule) : r.Weaker r := ⟨rfl, rfl, rfl, fun _ h => h⟩

theorem Weaker.findingsAt {r q : Rule} (h : r.Weaker q) (source : String) (s : Step) :
    (r.findingsAt source s).Sublist (q.findingsAt source s) := by
  have view : r.view source s = q.view source s := by simp only [Rule.view, h.usesSource]
  simp only [Rule.findingsAt, view, h.id, h.message]
  cases flagged : r.flags (q.view source s) with
  | none => exact List.nil_sublist _
  | some b =>
    cases b with
    | false => exact List.nil_sublist _
    | true => rw [h.flags _ flagged]

theorem debugStatement_weaker {calls more : List String} (h : calls ⊆ more) :
    (debugStatement calls).Weaker (debugStatement more) := by
  have targets := List.filterMap_subset callTarget? h
  refine ⟨rfl, rfl, rfl, fun v flagged => ?_⟩
  simp only [debugStatement, Option.some.injEq, Option.any_eq_true, List.contains_iff_mem] at flagged ⊢
  obtain ⟨target, called, mem⟩ := flagged
  exact ⟨target, called, targets mem⟩

theorem excessParameters_weaker {low high : Int} (h : low ≤ high) :
    (excessParameters high).Weaker (excessParameters low) := by
  refine ⟨rfl, rfl, rfl, fun v flagged => ?_⟩
  simp only [excessParameters, Option.some.injEq, Option.any_eq_true, decide_eq_true_eq] at flagged ⊢
  obtain ⟨params, sized, many⟩ := flagged
  exact ⟨params, sized, Int.lt_of_le_of_lt h many⟩

theorem oversizedFunction_weaker {low high : Int} (h : low ≤ high) :
    (oversizedFunction high).Weaker (oversizedFunction low) := by
  refine ⟨rfl, rfl, rfl, fun v flagged => ?_⟩
  simp only [oversizedFunction, Option.some.injEq, Bool.and_eq_true, decide_eq_true_eq] at flagged ⊢
  exact ⟨flagged.1, Int.lt_of_le_of_lt h flagged.2⟩

end Rule

namespace Catalog

theorem full_weaker {a b : Settings} (h : b.Laxer a) : List.Forall₂ Rule.Weaker (full b) (full a) := by
  have calls := Rule.debugStatement_weaker h.calls
  have params := Rule.excessParameters_weaker h.params
  have lines := Rule.oversizedFunction_weaker h.lines
  exact .cons (.refl _) <| .cons (.refl _) <| .cons (.refl _) <| .cons calls <| .cons (.refl _) <|
    .cons params <| .cons lines <| .cons (.refl _) .nil

/-- Weaker rules, fewer of which are left, find less at each step. -/
theorem without_sublist {weak strong : Catalog} (h : List.Forall₂ Rule.Weaker weak strong)
    {ids more : List String} (sub : ids ⊆ more) (source : String) (s : Step) :
    ((weak.without more).flatMap (·.findingsAt source s)).Sublist
      ((strong.without ids).flatMap (·.findingsAt source s)) := by
  unfold without
  induction h with
  | nil => exact List.Sublist.refl _
  | @cons r q _ _ weaker _ ih =>
    by_cases dropped : r.id ∈ more
    · rw [List.filter_cons_of_neg (by simpa using dropped), List.filter_cons]
      split
      · exact ih.trans (List.sublist_append_right _ _)
      · exact ih
    · have kept : q.id ∉ ids := fun mem => dropped (weaker.id ▸ sub mem)
      rw [List.filter_cons_of_pos (by simpa using dropped), List.filter_cons_of_pos (by simpa using kept)]
      exact (weaker.findingsAt source s).append ih

end Catalog

namespace Scan

theorem program_sublist {a b : Settings} (h : b.Laxer a) (source path : String) (root : Node) :
    (program source path (some b) root).value.findings.Sublist
      (program source path (some a) root).value.findings := by
  have found : (analyze source root (Catalog.ofSettings (some b))).value.Sublist
      (analyze source root (Catalog.ofSettings (some a))).value := by
    rw [value_analyze, value_analyze]
    apply List.Sublist.flatMap_right
    intro s _
    exact Catalog.without_sublist (Catalog.full_weaker h) h.disabled source s
  simp only [program, Logged.value_bind, Logged.value_pure, Option.getD_some, h.keyword]
  exact found.filter _

theorem program_eq {a b : Settings} (ab : a.Laxer b) (ba : b.Laxer a) (source path : String) (root : Node) :
    (program source path (some b) root).value = (program source path (some a) root).value := by
  have findings := (program_sublist ba source path root).antisymm (program_sublist ab source path root)
  simp only [program, Logged.value_bind, Logged.value_pure] at findings ⊢
  rw [findings]

theorem value_source_of_read {source : String} {root : Node} (read : Script.read source = .ok root)
    (path : String) (settings : Option Settings) :
    (Scan.source source path settings).value = .ok (program source path settings root).value := by
  rw [Scan.source, read]
  rfl

theorem source_eq {a b : Settings} (ab : a.Laxer b) (ba : b.Laxer a) (source path : String) :
    (Scan.source source path (some b)).value = (Scan.source source path (some a)).value := by
  cases read : Script.read source with
  | ok root =>
    rw [value_source_of_read read, value_source_of_read read, program_eq ab ba]
  | error fault =>
    simp only [Scan.source, read]
    cases fault <;> rfl

end Scan

/-- A scan of a text that parses finds no more under laxer settings, and finds it in the same order, with
the same message and place. In what order names of calls and rules are listed, and how often, changes
no scan. -/
theorem source_under_laxer_settings (source path : String) (a : Settings) :
    (∀ (b : Settings) (root : Node), b.Laxer a → Script.read source = .ok root →
      ∃ fewer more, (Scan.source source path (some b)).value = .ok fewer ∧
        (Scan.source source path (some a)).value = .ok more ∧ fewer.findings.Sublist more.findings) ∧
    ∀ calls disabled : List String, (∀ call, call ∈ calls ↔ call ∈ a.debugCalls) →
      (∀ id, id ∈ disabled ↔ id ∈ a.disabledRules) →
      (Scan.source source path (some { a with debugCalls := calls, disabledRules := disabled })).value =
        (Scan.source source path (some a)).value := by
  constructor
  · intro b root laxer read
    have fewer := Scan.value_source_of_read read path (some b)
    have more := Scan.value_source_of_read read path (some a)
    exact ⟨_, _, fewer, more, Scan.program_sublist laxer source path root⟩
  · intro calls disabled sameCalls sameRules
    apply Scan.source_eq
    · exact ⟨rfl, Int.le_refl _, Int.le_refl _, fun _ h => (sameCalls _).mpr h, fun _ h => (sameRules _).mp h⟩
    · exact ⟨rfl, Int.le_refl _, Int.le_refl _, fun _ h => (sameCalls _).mp h, fun _ h => (sameRules _).mpr h⟩

/-- The call `a.b(7)` with `a.b` as a debug call and without. -/
theorem findings_under_laxer_settings :
    let text := "a.b(7);"
    let strict : Settings := { maxParams := 0, debugCalls := ["a.b", "c.d"] }
    let lax : Settings := { debugCalls := ["c.d", "c.d"], disabledRules := ["legacy-declaration"] }
    let number : Finding := ⟨"magic-number", "Magic number detected: 7. Consider defining a constant.", 1, 5⟩
    (lax.Laxer strict ∧ ∃ fewer more, (Scan.source text "a.js" (some lax)).value = .ok fewer ∧
      (Scan.source text "a.js" (some strict)).value = .ok more ∧ fewer.findings.Sublist more.findings ∧
      fewer.findings = [number] ∧
      more.findings = [⟨"debug-statement", "A.b statement detected.", 1, 1⟩, number]) ∧
    (Scan.source text "a.js" (some { strict with debugCalls := ["c.d", "a.b", "c.d"], disabledRules := [] })).value =
      (Scan.source text "a.js" (some strict)).value := by
  intro text strict lax number
  have laxer : lax.Laxer strict := ⟨rfl, by decide, by decide, by decide, by decide⟩
  have holds := source_under_laxer_settings text "a.js" strict
  obtain ⟨root, read⟩ : ∃ root, Script.read text = .ok root := by
    have reads : (Script.read text).isOk = true := by decide +kernel
    cases read : Script.read text with
    | ok root => exact ⟨root, rfl⟩
    | error fault =>
      rw [read] at reads
      cases reads
  obtain ⟨fewer, more, hfewer, hmore, sublist⟩ := holds.1 lax root laxer read
  have few : (Scan.source text "a.js" (some lax)).value.toOption.map (·.findings) = some [number] := by
    decide +kernel
  have many : (Scan.source text "a.js" (some strict)).value.toOption.map (·.findings) =
      some [⟨"debug-statement", "A.b statement detected.", 1, 1⟩, number] := by
    decide +kernel
  rw [hfewer] at few
  rw [hmore] at many
  refine ⟨⟨laxer, fewer, more, hfewer, hmore, sublist, Option.some.inj few, Option.some.inj many⟩, ?_⟩
  apply holds.2
  · intro call
    simp only [strict, List.mem_cons, List.not_mem_nil]
    tauto
  · intro id
    rfl

end ScriptAudit
