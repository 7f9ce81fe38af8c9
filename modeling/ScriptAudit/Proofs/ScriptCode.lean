import Mathlib.Data.List.Perm.Basic
import ScriptAudit.Proofs.Conversion
import ScriptAudit.Proofs.Parsing
import ScriptAudit.Script

namespace ScriptAudit

namespace ParseTree

/-- The node is a piece of code: a literal, a member access, a call with arguments or a function, or else
a method. -/
def isPiece (t : ParseTree) : Bool := t.named && (t.isCode || shape t.type == .method)

variable {t : ParseTree}

theorem isPiece_of_not_kept (h : t.isKept = false) : t.isPiece = false := by
  cases named : t.named with
  | false => simp [isPiece, named]
  | true =>
    have skipped : t.isSkipped := by simpa [isKept, named] using h
    have other : shape t.type = .other := by
      by_contra known
      rw [isSkipped, skipped_of_shape known] at skipped
      cases skipped
    simp [isPiece, isCode, other]

theorem filter_nodes {p : ParseTree → Bool} (fits : t.Every Fits) (tokens : ∀ c, c.isKept = false → p c = false) :
    t.nodes.filter p = (if p t then [t] else []) ++ t.keptChildren.flatMap fun c => c.nodes.filter p := by
  have below := ((every_iff _ t).mp fits).2
  have unkept : ∀ c ∈ t.children, c.isKept = false → c.nodes.filter p = [] := by
    intro c hc kept
    have leaf := ((every_iff _ c).mp (below c hc)).1.leaf kept
    simp [nodes_eq c, leaf, tokens c kept]
  rw [nodes_eq, List.filter_cons, List.filter_flatMap, flatMap_filter_of_nil unkept, keptChildren]
  split <;> rfl

/-- The function of a method is listed once. -/
theorem flatMap_methodAt (agrees : t.Agrees (shape t.type)) :
    t.keptChildren.flatMap (methodAt t) = if shape t.type = .method then [t] else [] := by
  by_cases method : shape t.type = .method
  · rw [method] at agrees
    obtain ⟨parts, -, -⟩ := agrees
    obtain ⟨name, hname⟩ := Option.isSome_iff_exists.mp (parts.present "name" (by simp))
    obtain ⟨params, hparams⟩ := Option.isSome_iff_exists.mp (parts.present "parameters" (by simp))
    obtain ⟨body, hbody⟩ := Option.isSome_iff_exists.mp (parts.present "body" (by simp))
    have decorators : ∀ c ∈ t.keptChildren, (!c.fillsAny ["decorator"]) = false → methodAt t c = [] := by
      intro c _ hc
      have field : c.field = some "decorator" := by simpa [fillsAny] using hc
      simp [methodAt, field]
    have ofName := field_of_child? hname
    have ofParams := field_of_child? hparams
    have ofBody := field_of_child? hbody
    rw [flatMap_filter_of_nil decorators, parts.parts]
    simp [methodAt, method, hname, hparams, hbody, ofName, ofParams, ofBody]
  · simp [methodAt, method]

/-- The code of a tree is every piece of code among its nodes. -/
theorem code_perm (fits : t.Every Fits) (kept : t.isKept) : t.code.Perm (t.nodes.filter isPiece) := by
  induction t using ParseTree.induction with
  | step t ih =>
    obtain ⟨here, below⟩ := (every_iff _ t).mp fits
    have own : t.ownCode ++ t.keptChildren.flatMap (methodAt t) = if t.isPiece then [t] else [] := by
      rw [flatMap_methodAt (here.agrees kept), ownCode, isPiece, named_of_isKept kept]
      by_cases method : shape t.type = .method
      · simp [isCode, method]
      · simp [method]
    rw [filter_nodes fits fun _ => isPiece_of_not_kept, ← own, code, codeWithout_eq, List.append_assoc]
    refine List.Perm.append_left _ ?_
    simp only [Bool.false_eq_true, if_false]
    refine (List.flatMap_append_perm _ _ _).symm.trans (List.Perm.append_left _ ?_)
    refine List.Perm.flatMap_left _ fun c hc => ?_
    obtain ⟨mem, keptChild⟩ := mem_keptChildren.mp hc
    exact ih c mem (below c mem) keptChild

/-- But for methods, the code of a tree comes in the order of its nodes. -/
theorem filter_isCode_code (fits : t.Every Fits) (kept : t.isKept) :
    t.code.filter isCode = t.nodes.filter fun u => u.named && u.isCode := by
  induction t using ParseTree.induction with
  | step t ih =>
    have below := ((every_iff _ t).mp fits).2
    have tokens : ∀ c : ParseTree, c.isKept = false → (c.named && c.isCode) = false := by
      intro c hc
      have none := isPiece_of_not_kept hc
      cases named : c.named <;> simp_all [isPiece]
    have method (c : ParseTree) : (methodAt t c).filter isCode = [] := by
      unfold methodAt
      split
      next h => simp [isCode, h.1]
      next => rfl
    have own : t.ownCode.filter isCode = if t.named && t.isCode then [t] else [] := by
      rw [ownCode, named_of_isKept kept]
      cases h : t.isCode <;> simp [h]
    rw [filter_nodes fits tokens, ← own, code, codeWithout_eq, List.filter_append, List.filter_flatMap]
    congr 1
    refine List.flatMap_congr fun c hc => ?_
    obtain ⟨mem, keptChild⟩ := mem_keptChildren.mp hc
    rw [List.filter_append, method, List.nil_append]
    exact ih c mem (below c mem) keptChild

theorem Grammatical.isKept (h : t.Grammatical) : t.isKept := by
  rw [ParseTree.isKept, h.named, isSkipped, h.program]
  decide

end ParseTree

namespace Script

/-- What a program keeps of the code of a parse tree. The code of the tree is every piece of code among its
nodes; the program has one node for each piece that is read, and lacks only code of the parts left out. -/
structure KeepsCode (src : SourceBytes) (tree : ParseTree) (root : Node) : Prop where
  every : tree.code.Perm (tree.nodes.filter ParseTree.isPiece)
  ordered : tree.code.filter ParseTree.isCode = tree.nodes.filter fun t => t.named && t.isCode
  kept : List.Forall₂ (Appears src) tree.readCode root.code
  within : tree.readCode.Sublist tree.code
  whole : List.Forall₂ (Appears src) tree.code root.code ↔ ∀ part ∈ tree.omissions, part.code = []

theorem ofTree_eq_ok {source : String} {tree : ParseTree} {root : Node} (h : ofTree source tree = .ok root) :
    Node.ofParseTree (SourceBytes.ofText source.toList) tree = .ok root := by
  unfold ofTree at h
  dsimp only at h
  split at h
  · cases h
  · cases converted : Node.ofParseTree (SourceBytes.ofText source.toList) tree with
    | error fault =>
      rw [converted] at h
      cases h
    | ok n =>
      rw [converted] at h
      cases h
      rfl

/-- Every text has a tree of the grammar, and the program of such a tree keeps all its code, but for the
decorators of methods and the first values of variables that loops run over. -/
theorem keeps_code (source : String) : (JavaScript.parse source.toList).Grammatical ∧
    ∀ (tree : ParseTree) (root : Node), tree.Grammatical → ofTree source tree = .ok root →
      KeepsCode (SourceBytes.ofText source.toList) tree root := by
  refine ⟨JavaScript.grammatical_parse source.toList, ?_⟩
  intro tree root grammatical read
  have kept : List.Forall₂ (Appears (SourceBytes.ofText source.toList)) tree.readCode root.code := by
    have renders := Node.ofParseTree_renders (SourceBytes.ofText source.toList) grammatical
    rw [ofTree_eq_ok read] at renders
    exact rendersNode_ok.mp renders
  refine ⟨ParseTree.code_perm grammatical.fits grammatical.isKept,
    ParseTree.filter_isCode_code grammatical.fits grammatical.isKept, kept, tree.readCode_sublist, ?_⟩
  rw [← tree.readCode_eq_code_iff]
  constructor
  · intro all
    have length : tree.readCode.length = tree.code.length := kept.length_eq.trans all.length_eq.symm
    exact tree.readCode_sublist.eq_of_length length
  · intro same
    rw [← same]
    exact kept

/-- A script with a number in the decorator of a method. -/
def decoratedMethod : String := "class A \x7b @d(42) m() \x7b\x7d \x7d"

/-- The number in the decorator is no part of the program. -/
theorem code_of_decorated_method : ∃ root, read decoratedMethod = .ok root ∧
    KeepsCode (SourceBytes.ofText decoratedMethod.toList) (JavaScript.parse decoratedMethod.toList) root ∧
    ¬ List.Forall₂ (Appears (SourceBytes.ofText decoratedMethod.toList))
      (JavaScript.parse decoratedMethod.toList).code root.code := by
  obtain ⟨root, hroot⟩ : ∃ root, read decoratedMethod = .ok root := by
    have fine : (read decoratedMethod).toBool = true := by decide +kernel
    cases h : read decoratedMethod with
    | error fault =>
      rw [h] at fine
      cases fine
    | ok root => exact ⟨root, rfl⟩
  have keeps := (keeps_code decoratedMethod).2 _ root (keeps_code decoratedMethod).1 hroot
  refine ⟨root, hroot, keeps, ?_⟩
  rw [keeps.whole]
  decide +kernel

end Script

end ScriptAudit
