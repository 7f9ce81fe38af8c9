import ScriptAudit.Proofs.Origins
import ScriptAudit.Proofs.RuleIndependence
import ScriptAudit.Proofs.SourceOrder

namespace ScriptAudit

open ParseTree

namespace Node

def isDeclarator : Node → Bool
  | declarator .. => true
  | _ => false

/-- What a declaration holds are declarators. -/
def Declares : Node → Prop
  | declaration _ _ parts => ∀ d ∈ parts, d.isDeclarator
  | _ => True

end Node

section Conversion

variable {src : SourceBytes} {t : ParseTree} {n : Node}

theorem Built.isDeclarator (h : Built src t n) (shape : shape t.type = .declarator) : n.isDeclarator := by
  cases h with
  | declarator => rfl
  | _ other => rw [shape] at other; cases other

theorem ParseTree.Converts.isDeclarator (h : t.Converts src n) (type : t.type = "variable_declarator") :
    n.isDeclarator := by
  have shape : ParseTree.shape t.type = .declarator := by
    rw [type]
    rfl
  exact (h.built (inner?_of_shape (by simp [shape]))).isDeclarator shape

theorem Built.declares (h : Built src t n) : n.Declares := by
  cases h with
  | declaration _ _ made =>
    intro d hd
    obtain ⟨c, hc, converts⟩ := exists_of_forall₂ made hd
    have type := (List.mem_filter.mp hc).2
    rw [Bool.and_eq_true, beq_iff_eq] at type
    exact converts.isDeclarator type.2
  | _ => trivial

/-- Also the declarations that no parse node stands for hold a declarator. -/
theorem Origin.declares {first last : ParseTree} (h : Origin src t n first last) : n.Declares := by
  cases h with
  | whole plain made => exact (made.built plain).declares
  | name _ _ => trivial
  | value shape made _ =>
    cases made.built (inner?_of_shape (by simp [shape])) with
    | method => trivial
    | other other => simp [shape] at other
    | tagged other => simp [shape] at other
  | head shape made hword _ =>
    cases made.built (inner?_of_shape (by simp [shape])) with
    | loop _ _ none => simp [hword] at none
    | declaringLoop => simp [Node.Declares, Node.isDeclarator]
    | other other => simp [shape] at other
  | target shape made hword _ =>
    cases made.built (inner?_of_shape (by simp [shape])) with
    | loop _ _ none => simp [none] at hword
    | declaringLoop => trivial
    | other other => simp [shape] at other

theorem Node.declares_of_visited {root : ParseTree} {program : Node}
    (made : Node.ofParseTree src root = .ok program) (hn : n ∈ program.visited) : n.Declares := by
  rcases origin_of_visited made hn with rfl | ⟨_, _, _, _, origin⟩
  · obtain ⟨body, rfl, -⟩ := ofParseTree_eq_ok made
    trivial
  · exact origin.declares

end Conversion

namespace Rule

/-- The rule has a verdict on what it sees, and a message if it flags it. -/
structure Evaluates (r : Rule) (v : Visit) : Prop where
  flags : ∃ flagged, r.flags v = some flagged
  message : r.flags v = some true → ∃ text, r.message v = some text

theorem Evaluates.judge_ne_skipped {r : Rule} {v : Visit} (h : r.Evaluates v) : r.judge v ≠ .skipped := by
  obtain ⟨flagged, verdict⟩ := h.flags
  rw [judge, verdict]
  cases flagged with
  | false => simp
  | true =>
    obtain ⟨text, message⟩ := h.message verdict
    simp [message]

theorem uninitialized_eq {n : Node} (h : n.Declares) :
    ∃ flagged, uninitialized n = some flagged ∧ (flagged = true → (uninitializedName n).isSome) := by
  cases n with
  | declaration l keyword parts =>
    cases parts with
    | nil => exact ⟨false, rfl, by simp⟩
    | cons first rest =>
      have declarator := h first List.mem_cons_self
      cases first with
      | declarator l id init =>
        refine ⟨_, rfl, fun flagged => ?_⟩
        exact (Bool.and_eq_true _ _ ▸ flagged).2
      | _ => cases declarator
  | _ => exact ⟨false, rfl, by simp⟩

variable (v : Visit)

/-- A rule that always has a verdict, and whose message is there whenever it flags a node. -/
theorem evaluates_of_some {r : Rule} {flagged : Bool} (verdict : r.flags v = some flagged)
    (message : flagged = true → (r.message v).isSome) : r.Evaluates v := by
  refine ⟨⟨flagged, verdict⟩, fun h => Option.isSome_iff_exists.mp (message ?_)⟩
  exact Option.some.inj (verdict.symm.trans h)

theorem missingInitializer_evaluates (h : v.node.Declares) : missingInitializer.Evaluates v := by
  obtain ⟨flagged, verdict, named⟩ := uninitialized_eq h
  apply evaluates_of_some v verdict
  intro here
  simpa [missingInitializer] using named here

theorem unsafeMemberAccess_evaluates : unsafeMemberAccess.Evaluates v := by
  apply evaluates_of_some v rfl
  intro flagged
  split at flagged
  next accessed _ => simp [unsafeMemberAccess, accessed]
  next => cases flagged

theorem nestedCallback_evaluates : nestedCallback.Evaluates v :=
  evaluates_of_some v rfl fun _ => rfl

theorem debugStatement_evaluates (calls : List String) : (debugStatement calls).Evaluates v := by
  apply evaluates_of_some v rfl
  intro flagged
  obtain ⟨called, here, -⟩ := (Option.any_eq_true _ _).mp flagged
  simp [debugStatement, here]

theorem legacyDeclaration_evaluates : legacyDeclaration.Evaluates v :=
  evaluates_of_some v rfl fun _ => rfl

theorem excessParameters_evaluates (limit : Int) : (excessParameters limit).Evaluates v := by
  apply evaluates_of_some v rfl
  intro flagged
  obtain ⟨params, sized, -⟩ := (Option.any_eq_true _ _).mp flagged
  simp [excessParameters, sized]

theorem oversizedFunction_evaluates (limit : Int) : (oversizedFunction limit).Evaluates v :=
  evaluates_of_some v rfl fun _ => rfl

theorem magicNumber_evaluates : magicNumber.Evaluates v := by
  apply evaluates_of_some v rfl
  intro flagged
  simpa [magicNumber] using flagged

end Rule

namespace Catalog

theorem full_evaluates {v : Visit} (h : v.node.Declares) (settings : Settings) :
    ∀ r ∈ full settings, r.Evaluates v := by
  simp only [full, List.forall_mem_cons]
  exact ⟨Rule.missingInitializer_evaluates v h, Rule.unsafeMemberAccess_evaluates v,
    Rule.nestedCallback_evaluates v, Rule.debugStatement_evaluates v _, Rule.legacyDeclaration_evaluates v,
    Rule.excessParameters_evaluates v _, Rule.oversizedFunction_evaluates v _, Rule.magicNumber_evaluates v,
    by simp⟩

theorem ofSettings_evaluates {v : Visit} (h : v.node.Declares) (settings : Option Settings) :
    ∀ r ∈ ofSettings settings, r.Evaluates v := by
  cases settings with
  | none => exact full_evaluates h {}
  | some s => exact fun r hr => full_evaluates h s r (List.mem_filter.mp hr).1

end Catalog

/-- What the rules of a catalog flag at some steps, in the order of an analysis. -/
def Catalog.flagged (catalog : Catalog) (source : String) (steps : List Step) : List (Rule × Step) :=
  steps.flatMap fun s => (catalog.filter fun r => r.flags (r.view source s) == some true).map (·, s)

/-- The finding says what the rule says of the step, and where the node of it starts. -/
structure Rule.Reports (source : String) (flagged : Rule × Step) (f : Finding) : Prop where
  rule : f.rule = flagged.1.id
  message : flagged.1.message (flagged.1.view source flagged.2) = some f.message
  line : f.line = flagged.2.node.location.start.line
  column : f.column = flagged.2.node.location.start.column

namespace Rule

variable {r : Rule} {source : String} {s : Step}

theorem Evaluates.records_apply (h : r.Evaluates (r.view source s)) : (r.apply source s).records = [] := by
  simp [Rule.apply, h.judge_ne_skipped]

theorem Evaluates.findingsAt_of_flagged (h : r.Evaluates (r.view source s))
    (flagged : r.flags (r.view source s) = some true) :
    ∃ f, r.findingsAt source s = [f] ∧ Reports source (r, s) f := by
  obtain ⟨text, message⟩ := h.message flagged
  let start := s.node.location.start
  refine ⟨⟨r.id, text, start.line, start.column⟩, ?_, rfl, message, rfl, rfl⟩
  simp only [findingsAt, flagged, message, start]

theorem findingsAt_of_not_flagged (clear : r.flags (r.view source s) ≠ some true) :
    r.findingsAt source s = [] := by
  simp only [findingsAt]
  split
  next flagged _ => exact absurd flagged clear
  next => rfl

end Rule

namespace Catalog

variable {catalog : Catalog} {source : String}

theorem records_visit {s : Step} (h : ∀ r ∈ catalog, r.Evaluates (r.view source s)) (c : Collector) :
    (catalog.visit source s c).records = [] := by
  induction catalog generalizing c with
  | nil => rfl
  | cons r rest ih =>
    obtain ⟨first, others⟩ := List.forall_mem_cons.mp h
    rw [visit, Logged.records_bind, first.records_apply, ih others]
    rfl

theorem records_visitAll {steps : List Step}
    (h : ∀ s ∈ steps, ∀ r ∈ catalog, r.Evaluates (r.view source s)) (c : Collector) :
    (catalog.visitAll source steps c).records = [] := by
  induction steps generalizing c with
  | nil => rfl
  | cons s rest ih =>
    obtain ⟨first, others⟩ := List.forall_mem_cons.mp h
    rw [visitAll, Logged.records_bind, records_visit first, ih others]
    rfl

/-- At one step each flag of a rule is one finding. -/
theorem findingsAt_reports {s : Step} (h : ∀ r ∈ catalog, r.Evaluates (r.view source s)) :
    List.Forall₂ (Rule.Reports source)
      ((catalog.filter fun r => r.flags (r.view source s) == some true).map (·, s))
      (catalog.flatMap (·.findingsAt source s)) := by
  induction catalog with
  | nil => exact .nil
  | cons r rest ih =>
    obtain ⟨first, others⟩ := List.forall_mem_cons.mp h
    rw [List.flatMap_cons]
    by_cases flagged : r.flags (r.view source s) = some true
    · obtain ⟨f, found, reports⟩ := first.findingsAt_of_flagged flagged
      rw [List.filter_cons_of_pos (by simpa using flagged), found]
      exact .cons reports (ih others)
    · rw [List.filter_cons_of_neg (by simpa using flagged), Rule.findingsAt_of_not_flagged flagged]
      exact ih others

theorem flagged_reports {steps : List Step}
    (h : ∀ s ∈ steps, ∀ r ∈ catalog, r.Evaluates (r.view source s)) :
    List.Forall₂ (Rule.Reports source) (catalog.flagged source steps)
      (steps.flatMap fun s => catalog.flatMap (·.findingsAt source s)) := by
  induction steps with
  | nil => exact .nil
  | cons s rest ih =>
    obtain ⟨first, others⟩ := List.forall_mem_cons.mp h
    exact List.rel_append (findingsAt_reports first) (ih others)

end Catalog

/-- In a program that was converted every rule that settings ask for has a verdict on every node, and a message
if it flags the node. So nothing is logged but the number of findings, and these are all that the
rules flag, one by one. -/
theorem analyze_skips_no_rule (src : SourceBytes) (tree : ParseTree) (program : Node)
    (made : Node.ofParseTree src tree = .ok program) (source : String) (settings : Option Settings) :
    let catalog := Catalog.ofSettings settings
    let analysis := analyze source program catalog
    (∀ s ∈ program.walk, ∀ r ∈ catalog, r.Evaluates (r.view source s) ∧ r.judge (r.view source s) ≠ .skipped) ∧
    analysis.records = [⟨.debug, toString analysis.value.length ++ " finding(s) from " ++
      toString catalog.length ++ " rule(s)"⟩] ∧
    List.Forall₂ (Rule.Reports source) (catalog.flagged source program.walk) analysis.value := by
  intro catalog analysis
  have evaluates : ∀ s ∈ program.walk, ∀ r ∈ catalog, r.Evaluates (r.view source s) := by
    intro s hs r hr
    have declares := Node.declares_of_visited made (List.mem_map_of_mem hs)
    exact Catalog.ofSettings_evaluates (v := r.view source s) declares settings r hr
  refine ⟨fun s hs r hr => ⟨evaluates s hs r hr, (evaluates s hs r hr).judge_ne_skipped⟩, ?_, ?_⟩
  · simp only [analysis, analyze, Logged.records_bind, Catalog.records_visitAll evaluates, ← Collector.length_results]
    rfl
  · rw [value_analyze]
    exact Catalog.flagged_reports evaluates

/-- The head of a loop and the declaration in it are both evaluated, and each is found by two rules. -/
theorem analyze_declaringLoop :
    Node.ofParseTree (.ofText declaringLoop.toList) declaringLoopTree = .ok declaringLoopProgram ∧
    (∀ s ∈ declaringLoopProgram.walk, ∀ r ∈ Catalog.standard,
      r.Evaluates (r.view declaringLoop s) ∧ r.judge (r.view declaringLoop s) ≠ .skipped) ∧
    (analyze declaringLoop declaringLoopProgram Catalog.standard).records =
      [⟨.debug, "4 finding(s) from 8 rule(s)"⟩] ∧
    List.Forall₂ (Rule.Reports declaringLoop) (Catalog.standard.flagged declaringLoop declaringLoopProgram.walk)
      (analyze declaringLoop declaringLoopProgram Catalog.standard).value := by
  have made : Node.ofParseTree (.ofText declaringLoop.toList) declaringLoopTree = .ok declaringLoopProgram := rfl
  obtain ⟨evaluates, records, reports⟩ := analyze_skips_no_rule _ _ _ made declaringLoop none
  refine ⟨made, evaluates, ?_, reports⟩
  have four : (analyze declaringLoop declaringLoopProgram Catalog.standard).value.length = 4 := by
    rw [value_analyze]
    simp only [Node.walk, Walk.run_cons, Walk.run_nil, Step.root, Step.below, declaringLoopProgram, Node.children, Node.isFunction,
      List.map_cons, List.map_nil, List.cons_append, List.nil_append, Option.toList_none]
    rfl
  exact records.trans (by rw [Catalog.ofSettings, four]; rfl)

end ScriptAudit
