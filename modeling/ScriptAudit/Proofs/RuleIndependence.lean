import ScriptAudit.Analysis

namespace ScriptAudit

/-- What a rule finds at a step: nothing unless it has a verdict and, for a node that it flags, a message. -/
def Rule.findingsAt (r : Rule) (source : String) (s : Step) : List Finding :=
  let v := r.view source s
  match r.flags v, r.message v with
  | some true, some text => [⟨r.id, text, s.node.location.start.line, s.node.location.start.column⟩]
  | _, _ => []

namespace Rule

theorem findings_judge (r : Rule) (source : String) (s : Step) :
    (r.judge (r.view source s)).findings = r.findingsAt source s := by
  simp only [judge, findingsAt]
  cases hf : r.flags (r.view source s) with
  | none => rfl
  | some flagged =>
    cases flagged with
    | false => rfl
    | true => cases r.message (r.view source s) <;> rfl

theorem value_apply (r : Rule) (source : String) (s : Step) :
    (r.apply source s).value = r.findingsAt source s := by
  rw [← findings_judge]
  simp only [apply]
  split <;> rfl

theorem rule_of_mem_findingsAt {r : Rule} {source : String} {s : Step} {f : Finding}
    (h : f ∈ r.findingsAt source s) : f.rule = r.id := by
  simp only [findingsAt] at h
  split at h
  · rw [List.mem_singleton.mp h]
  · simp at h

/-- A rule that is not shown the source does not depend on it. -/
theorem findingsAt_source {r : Rule} {source source' : String} (h : r.usesSource → source' = source)
    (s : Step) : r.findingsAt source' s = r.findingsAt source s := by
  have same : r.view source' s = r.view source s := by
    cases hu : r.usesSource with
    | false => simp [view, hu]
    | true => rw [h hu]
  simp only [findingsAt, same]

end Rule

namespace Catalog

theorem results_visit (catalog : Catalog) (source : String) (s : Step) (c : Collector) :
    (catalog.visit source s c).value.results = c.results ++ catalog.flatMap (·.findingsAt source s) := by
  induction catalog generalizing c with
  | nil => exact (List.append_nil c.results).symm
  | cons r rest ih =>
    rw [visit, Logged.value_bind, ih, Collector.results_recordAll, r.value_apply source s, List.flatMap_cons,
      List.append_assoc]

theorem results_visitAll (catalog : Catalog) (source : String) (steps : List Step) (c : Collector) :
    (catalog.visitAll source steps c).value.results =
      c.results ++ steps.flatMap fun s => catalog.flatMap (·.findingsAt source s) := by
  induction steps generalizing c with
  | nil => exact (List.append_nil c.results).symm
  | cons s rest ih =>
    rw [visitAll, Logged.value_bind, ih, results_visit, List.flatMap_cons, List.append_assoc]

/-- The findings that come from rules with some ids are the findings of those rules. -/
theorem filter_findingsAt (catalog : Catalog) (source : String) (s : Step) (keep : String → Bool) :
    (catalog.flatMap (·.findingsAt source s)).filter (fun f => keep f.rule) =
      (catalog.filter fun r => keep r.id).flatMap (·.findingsAt source s) := by
  induction catalog with
  | nil => rfl
  | cons r rest ih =>
    have own : (r.findingsAt source s).filter (fun f => keep f.rule) =
        if keep r.id then r.findingsAt source s else [] := by
      split
      next h =>
        rw [List.filter_eq_self]
        intro f hf
        rw [Rule.rule_of_mem_findingsAt hf, h]
      next h =>
        rw [List.filter_eq_nil_iff]
        intro f hf
        rw [Rule.rule_of_mem_findingsAt hf]
        exact h
    rw [List.flatMap_cons, List.filter_append, own, ih, List.filter_cons]
    split
    · rw [List.flatMap_cons]
    · rfl

end Catalog

theorem value_analyze (source : String) (root : Node) (catalog : Catalog) :
    (analyze source root catalog).value =
      root.walk.flatMap fun s => catalog.flatMap (·.findingsAt source s) := by
  have found := catalog.results_visitAll source root.walk .empty
  rw [Collector.results_empty, List.nil_append] at found
  exact found

theorem filter_analyze (source : String) (root : Node) (catalog : Catalog) (keep : String → Bool) :
    (analyze source root catalog).value.filter (fun f => keep f.rule) =
      (analyze source root (catalog.filter fun r => keep r.id)).value := by
  rw [value_analyze, value_analyze, List.filter_flatMap]
  congr 1
  funext s
  exact Catalog.filter_findingsAt catalog source s keep

/-- An analysis with any rules comes to its end, and holds at each step what each rule finds there. Leaving
out rules leaves out their findings and no others; the findings of a rule that shares its id with no
other are those it has alone, over any text if it is not shown the text. -/
theorem analyze_rules_independent (source : String) (root : Node) (catalog : Catalog) :
    ((analyze source root catalog).value =
      root.walk.flatMap fun s => catalog.flatMap (·.findingsAt source s)) ∧
    (∀ ids : List String, (analyze source root (catalog.without ids)).value =
      (analyze source root catalog).value.filter fun f => !ids.contains f.rule) ∧
    ∀ (r : Rule) (source' : String), (catalog.filter fun x => x.id == r.id) = [r] →
      (r.usesSource → source' = source) →
      ((analyze source root catalog).value.filter fun f => f.rule == r.id) =
        (analyze source' root [r]).value := by
  refine ⟨value_analyze source root catalog, fun ids => ?_, fun r source' only shown => ?_⟩
  · exact (filter_analyze source root catalog fun id => !ids.contains id).symm
  · rw [filter_analyze source root catalog fun id => id == r.id, only, value_analyze, value_analyze]
    congr 1
    funext s
    simp only [List.flatMap_cons, List.flatMap_nil, Rule.findingsAt_source shown s]

/-- A declaration of a number: the rule on initializers cannot evaluate it, and the number is found all
the same. -/
theorem analyze_beside_failing_rule :
    let place : Location := ⟨⟨1, 1⟩, ⟨1, 2⟩⟩
    let declaration := Node.declaration place "var" [.literal place (.int 7) "7"]
    let root := Node.program place [declaration]
    Rule.uninitialized declaration = none ∧
    (Catalog.standard.filter fun x => x.id == Rule.magicNumber.id) = [Rule.magicNumber] ∧
    ((analyze "var 7" root Catalog.standard).value.filter fun f => f.rule == Rule.magicNumber.id) =
      (analyze "" root [Rule.magicNumber]).value ∧
    (analyze "" root [Rule.magicNumber]).value =
      [⟨"magic-number", "Magic number detected: 7. Consider defining a constant.", 1, 1⟩] := by
  intro place declaration root
  have only : (Catalog.standard.filter fun x => x.id == Rule.magicNumber.id) = [Rule.magicNumber] := rfl
  have independent := analyze_rules_independent "var 7" root Catalog.standard
  refine ⟨rfl, only, independent.2.2 Rule.magicNumber "" only (by decide), ?_⟩
  have steps : root.walk = [Step.root root, ⟨declaration, some ⟨0, root⟩, none⟩,
      ⟨.literal place (.int 7) "7", some ⟨1, declaration⟩, none⟩] := by
    simp [Node.walk, Walk.run_cons, Walk.run_nil, Step.below, Step.root, root, declaration, Node.children, Node.isFunction]
  rw [value_analyze, steps]
  rfl

end ScriptAudit
