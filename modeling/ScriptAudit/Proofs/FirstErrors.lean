import ScriptAudit.Proofs.TreeShape
import ScriptAudit.Script

namespace ScriptAudit

namespace ParseTree

/-- The flag of a node says whether the node is an error or a child has the flag. -/
def FlagAgrees (t : ParseTree) : Prop := t.hasError = (t.isError || t.children.any (·.hasError))

/-- A tree has the flag exactly if one of its nodes is an error. -/
theorem hasError_iff {t : ParseTree} (flags : t.Every FlagAgrees) : t.hasError ↔ ∃ u ∈ t.nodes, u.isError := by
  induction t using ParseTree.induction with
  | step t ih =>
    obtain ⟨own, below⟩ := (every_iff _ t).mp flags
    have children : (∃ c ∈ t.children, c.hasError) ↔ ∃ c ∈ t.children, ∃ u ∈ c.nodes, u.isError :=
      exists_congr fun c => and_congr_right fun hc => ih c hc (below c hc)
    rw [own, Bool.or_eq_true, List.any_eq_true, children, nodes_eq]
    constructor
    · rintro (here | ⟨c, hc, u, hu, bad⟩)
      · exact ⟨t, List.mem_cons_self, here⟩
      · exact ⟨u, List.mem_cons_of_mem _ (List.mem_flatMap_of_mem hc hu), bad⟩
    · rintro ⟨u, hu, bad⟩
      rcases List.mem_cons.mp hu with rfl | hu
      · exact .inl bad
      · obtain ⟨c, hc, hu⟩ := List.mem_flatMap.mp hu
        exact .inr ⟨c, hc, u, hu, bad⟩

/-- Trees that are passed over hold no error. -/
theorem firstErrorIn?_eq_find? {all : List ParseTree} (flags : ∀ c ∈ all, c.Every FlagAgrees)
    (each : ∀ c ∈ all, c.firstError? = c.nodes.find? isError) :
    firstErrorIn? all = (nodesIn all).find? isError := by
  induction all with
  | nil => rfl
  | cons c rest ih =>
    obtain ⟨here, behind⟩ := List.forall_mem_cons.mp flags
    obtain ⟨first, later⟩ := List.forall_mem_cons.mp each
    rw [firstErrorIn?, nodesIn, List.find?_append, ih behind later, first]
    split
    · cases c.nodes.find? isError with
      | none => rfl
      | some bad => rfl
    next passed =>
      have clean : c.nodes.find? isError = none := by
        rw [List.find?_eq_none]
        intro u hu bad
        exact passed (by rw [(hasError_iff here).mpr ⟨u, hu, bad⟩, Bool.true_or])
      rw [clean, Option.none_or]

/-- The search finds what a search of all nodes in pre-order finds. -/
theorem firstError?_eq_find? {t : ParseTree} (flags : t.Every FlagAgrees) :
    t.firstError? = t.nodes.find? isError := by
  induction t using ParseTree.induction with
  | step t ih =>
    obtain ⟨-, below⟩ := (every_iff _ t).mp flags
    have children := firstErrorIn?_eq_find? below fun c hc => ih c hc (below c hc)
    cases t with
    | mk type start stop named missing hasError field children =>
      rw [firstError?, nodes, List.find?_cons, children, isError]
      cases type == "ERROR" || missing with
      | true => rfl
      | false => rfl

end ParseTree

namespace Script

open ParseTree

/-- A tree is refused exactly if one of its nodes is an error. What is reported is the first one in pre-order: whether
a token is missing there, and where it starts. -/
theorem reports_first_error (source : String) {t : ParseTree} (flags : t.Every FlagAgrees) :
    ((∃ e, ofTree source t = .error (.parse e)) ↔ ∃ u ∈ t.nodes, u.type = "ERROR" ∨ u.missing) ∧
    ∀ e, ofTree source t = .error (.parse e) → ∃ before bad after,
      t.firstError? = some bad ∧
      t.nodes = before ++ bad :: after ∧ (bad.type = "ERROR" ∨ bad.missing) ∧
      (∀ u ∈ before, ¬ (u.type = "ERROR" ∨ u.missing)) ∧
      (e.defect.message = "Missing token" ↔ bad.missing) ∧
      e.position = (SourceBytes.ofText source.toList).position bad.start := by
  have isError_iff (u : ParseTree) : u.isError ↔ u.type = "ERROR" ∨ u.missing := by simp [isError]
  have refused : (∃ e, ofTree source t = .error (.parse e)) ↔ t.hasError := by
    rw [ofTree]
    split
    next h => simp [h]
    next h =>
      apply iff_of_false _ h
      rintro ⟨e, he⟩
      cases converted : Node.ofParseTree (SourceBytes.ofText source.toList) t with
      | error fault => rw [converted] at he; cases he
      | ok program => rw [converted] at he; cases he
  simp only [← isError_iff]
  refine ⟨refused.trans (hasError_iff flags), fun e he => ?_⟩
  have flag : t.hasError := refused.mp ⟨e, he⟩
  have found := firstError?_eq_find? flags
  cases first : t.nodes.find? isError with
  | none =>
    obtain ⟨u, hu, bad⟩ := (hasError_iff flags).mp flag
    exact absurd bad (List.find?_eq_none.mp first u hu)
  | some bad =>
    rw [first] at found
    obtain ⟨isBad, before, after, split, clean⟩ := List.find?_eq_some_iff_append.mp first
    rw [ofTree, if_pos flag, errorOf, found] at he
    obtain rfl := ScriptFault.parse.inj (Except.error.inj he)
    refine ⟨before, bad, after, found, split, isBad, fun u hu => by simpa using clean u hu, ?_, rfl⟩
    dsimp only
    cases bad.missing with
    | true => decide
    | false => decide

/-- A call whose closing parenthesis is missing, behind a statement without errors and in front of a stray text. -/
def unclosedCall : ParseTree :=
  .build "program" ⟨0, 0, 0⟩ ⟨1, 6, 8⟩ true false none [
    .build "empty_statement" ⟨0, 0, 0⟩ ⟨0, 1, 1⟩ true false none [
      .build ";" ⟨0, 0, 0⟩ ⟨0, 1, 1⟩ false false none []],
    .build "expression_statement" ⟨1, 0, 2⟩ ⟨1, 3, 5⟩ true false none [
      .build "call_expression" ⟨1, 0, 2⟩ ⟨1, 3, 5⟩ true false none [
        .build "identifier" ⟨1, 0, 2⟩ ⟨1, 1, 3⟩ true false (some "function") [],
        .build "arguments" ⟨1, 1, 3⟩ ⟨1, 3, 5⟩ true false (some "arguments") [
          .build "(" ⟨1, 1, 3⟩ ⟨1, 2, 4⟩ false false none [],
          .build "identifier" ⟨1, 2, 4⟩ ⟨1, 3, 5⟩ true false none [],
          .build ")" ⟨1, 3, 5⟩ ⟨1, 3, 5⟩ false true none []]]],
    .build "ERROR" ⟨1, 4, 6⟩ ⟨1, 6, 8⟩ true false none []]

/-- The missing token is reported, not the stray text behind it. -/
theorem error_of_unclosedCall :
    unclosedCall.Every FlagAgrees ∧
    ofTree ";\nf(a ??" unclosedCall = .error (.parse ⟨.missingToken, ⟨2, 4⟩⟩) ∧
    ∃ bad, unclosedCall.firstError? = some bad ∧ bad.missing ∧
      ⟨2, 4⟩ = (SourceBytes.ofText ";\nf(a ??".toList).position bad.start := by
  have flags : unclosedCall.Every FlagAgrees := by
    simp [unclosedCall, build, Every, EveryIn, FlagAgrees, isError]
  have refused : ofTree ";\nf(a ??" unclosedCall = .error (.parse ⟨.missingToken, ⟨2, 4⟩⟩) := by rfl
  obtain ⟨-, first⟩ := reports_first_error ";\nf(a ??" flags
  obtain ⟨-, bad, -, found, -, -, -, token, position⟩ := first _ refused
  exact ⟨flags, refused, bad, found, token.mp rfl, position⟩

end Script

end ScriptAudit
