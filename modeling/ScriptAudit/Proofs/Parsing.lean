import ScriptAudit.JavaScript.Grammar
import ScriptAudit.Proofs.Code
import ScriptAudit.Proofs.StatementTrees

namespace ScriptAudit

namespace ParseTree

variable {p q : ParseTree → Prop}

theorem Every.imp {t : ParseTree} (h : t.Every p) (imp : ∀ t, p t → q t) : t.Every q := by
  induction t using ParseTree.induction with
  | step t ih =>
    obtain ⟨here, below⟩ := (every_iff p t).mp h
    exact (every_iff q t).mpr ⟨imp t here, fun c hc => ih c hc (below c hc)⟩

/-- All code of a tree is made of nodes that convert, and has what all nodes have. -/
theorem mem_codeWithout {out : ParseTree → ParseTree → Bool} {t u : ParseTree} (kept : t.isKept)
    (h : t.Every p) (mem : u ∈ t.codeWithout out) : u.isKept ∧ p u := by
  induction t using ParseTree.induction with
  | step t ih =>
    obtain ⟨here, below⟩ := (every_iff p t).mp h
    rw [codeWithout_eq, List.mem_append, List.mem_flatMap] at mem
    rcases mem with own | ⟨c, hc, mem⟩
    · obtain rfl : u = t := by
        unfold ownCode at own
        split at own
        · exact List.mem_singleton.mp own
        · cases own
      exact ⟨kept, here⟩
    obtain ⟨child, keptChild⟩ := mem_keptChildren.mp hc
    rcases List.mem_append.mp mem with method | mem
    · obtain rfl : u = t := by
        unfold methodAt at method
        split at method
        · exact List.mem_singleton.mp method
        · cases method
      exact ⟨kept, here⟩
    · split at mem
      · cases mem
      · exact ih c child keptChild (below c child) mem

end ParseTree

namespace JavaScript

open ParseTree Reader

/-- However often they are unfolded, the rules read whole trees. -/
theorem wholeRules_unfolded (s : List Char) (n : Nat) : WholeRules s (unfolded n) := by
  induction n with
  | zero => exact fun _ => gives_stuck
  | succ n ih =>
    intro symbol
    cases symbol with
    | statement => exact gives_statementOf ih
    | block place => exact gives_blockOf ih place
    | expression context => exact gives_operandOf ih context 0
    | expressions context => exact gives_expressionsOf ih context
    | operand context level => exact gives_operandOf ih context level
    | maker context => exact gives_makerOf ih context
    | element => exact gives_markupElement ih

variable {s : List Char}

theorem gives_interpreterLine : interpreterLine.Gives s fun _ => True := by
  intro c hc a c' h
  unfold interpreterLine at h
  dsimp only at h
  split at h
  · cases h
    exact ⟨trivial, (hc.skipTrivia true).skipWhile _⟩
  · cases h
    exact ⟨trivial, hc⟩

theorem gives_programBody {rules : Rules} (hrules : WholeRules s rules) :
    (programBody rules).Gives s fun all => ∀ t ∈ all, t.Whole s := by
  have more : Reader.Looks fun c => .ok (!(c.skipTrivia true).rest.isEmpty, c) := fun c => ⟨_, rfl⟩
  refine gives_interpreterLine.bind fun _ _ => (gives_repeatWhile more (hrules _)).bind fun body hbody => ?_
  exact gives_ite (fun _ => gives_pure hbody) fun _ => gives_stuck

/-- The parse tree of a text is a whole program. -/
theorem whole_parse (s : List Char) : (parse s).Whole s ∧ (parse s).type = "program" := by
  have body := gives_programBody (wholeRules_unfolded s (16 * (s.length + 4))) _ (Cursor.start_within s)
  unfold parse
  dsimp only
  split
  next all c h =>
    refine ⟨whole_of_plain rfl rfl fun t ht => ?_, rfl⟩
    exact ((body all c h).1 t ht).good
  next m h =>
    refine ⟨whole_of_plain rfl rfl fun t ht => ?_, rfl⟩
    obtain rfl := List.mem_singleton.mp ht
    exact (whole_of_plain rfl rfl fun t ht => by cases ht).good

theorem grammatical_parse (s : List Char) : (parse s).Grammatical := by
  obtain ⟨whole, program⟩ := whole_parse s
  exact ⟨program, whole.named, whole.good.imp fun _ sound => sound.fits⟩

/-- Every number that is read from a parse tree is a number of the text. -/
theorem number_of_mem_readCode {t : ParseTree} (mem : t ∈ (parse s).readCode) (number : t.type = "number") :
    NumberBetween s t.start t.stop := by
  have whole := (whole_parse s).1
  obtain ⟨kept, sound⟩ := mem_codeWithout whole.kept whole.good mem
  exact sound.number kept number

end JavaScript

end ScriptAudit
