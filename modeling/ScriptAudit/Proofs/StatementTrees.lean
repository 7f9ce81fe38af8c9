import ScriptAudit.JavaScript.Statement
import ScriptAudit.Proofs.OperandTrees

namespace ScriptAudit.JavaScript

open ParseTree Reader

variable {s : List Char} {rules : Rules} (hrules : WholeRules s rules)

section Constructs

theorem gives_declarator {target : ParseTree} {value : List ParseTree} (htarget : target.Whole s)
    (hvalue : IsInitializer s value) :
    (branch "variable_declarator" (target.inField "name" :: value)).Gives s
      fun t => t.Whole s ∧ t.type = "variable_declarator" := by
  have good : ∀ t ∈ target.inField "name" :: value, t.Good s :=
    List.forall_mem_cons.mpr ⟨(htarget.inField _).good, hvalue.good⟩
  refine gives_typed .declarator rfl (by decide) (fun start stop => ?_) good
  rcases hvalue with rfl | ⟨equals, value, hequals, hv, rfl⟩
  · have laid := ((laid_nil []).absent "value" rfl).part "name" htarget.kept (by decide)
    exact laid.consistsOf (by simp)
  · have laid := (((laid_nil []).part "value" hv.kept (by decide)).beside hequals.beside).part "name"
      htarget.kept (by decide)
    exact laid.consistsOf (by simp)

/-- A declarator, or a comma between two of them. -/
def IsDeclaratorOrToken (s : List Char) (t : ParseTree) : Prop :=
  t.IsToken ∨ t.Whole s ∧ t.type = "variable_declarator"

theorem gives_declaration {type : String} {mark : ParseTree} {all closing : List ParseTree}
    (hshape : shape type = .declaration) (kept : mark.isKept = false) (hmark : mark.Good s)
    (hall : ∀ t ∈ all, IsDeclaratorOrToken s t) (hclosing : ∀ t ∈ closing, t.IsToken) :
    (branch type (mark :: all ++ closing)).Gives s (Whole s) := by
  refine gives_construct .declaration hshape (by decide) (fun start stop => ?_) ?_
  · intro c hc
    obtain ⟨mem, keptChild⟩ := mem_keptChildren.mp hc
    simp only [ParseTree.build, List.cons_append, List.mem_cons, List.mem_append] at mem
    rcases mem with rfl | mem | mem
    · rw [kept] at keptChild
      cases keptChild
    · rcases hall c mem with token | ⟨-, type⟩
      · rw [token.kept] at keptChild
        cases keptChild
      · exact type
    · rw [(hclosing c mem).kept] at keptChild
      cases keptChild
  · simp only [List.cons_append, List.mem_cons, List.mem_append]
    rintro t (rfl | mem | mem)
    · exact hmark
    · rcases hall t mem with token | ⟨whole, -⟩
      · exact token.good
      · exact whole.good
    · exact (hclosing t mem).good

/-- What a loop assigns to: perhaps a keyword, the target, and a first value of it. -/
def IsLoopTarget (s : List Char) (all : List ParseTree) : Prop :=
  ∃ (kind : List ParseTree) (left : ParseTree) (value : List ParseTree),
    (kind = [] ∨ ∃ t : ParseTree, t.IsToken ∧ kind = [t.inField "kind"]) ∧ left.Whole s ∧
      IsInitializer s value ∧ all = kind ++ left.inField "left" :: value

theorem gives_loop {marks target : List ParseTree} {operator right last body : ParseTree}
    (hmarks : ∀ t ∈ marks, t.IsToken) (htarget : IsLoopTarget s target) (hoperator : operator.IsToken)
    (hright : right.Whole s) (hlast : last.IsToken) (hbody : body.Whole s) :
    (branch "for_in_statement" (marks ++ (target ++ [operator.inField "operator", right.inField "right",
      last, body.inField "body"]))).Gives s (Whole s) := by
  obtain ⟨kind, left, value, hkind, hleft, hvalue, rfl⟩ := htarget
  have besideKind : ∀ t ∈ kind, Beside [] ["left", "value", "right", "body"] t := by
    rcases hkind with rfl | ⟨t, ht, rfl⟩
    · simp
    · simpa using ht.beside_inField (by decide)
  have laidRight := ((((laid_nil []).part "body" hbody.kept (by decide)).beside hlast.beside).part "right"
    hright.kept (by decide)).beside (hoperator.beside_inField (f := "operator") (by decide))
  have laidValue : ∃ present, ["right", "body"] ⊆ present ∧ Laid [] ["value", "right", "body"] present
      (value ++ [operator.inField "operator", right.inField "right", last, body.inField "body"]) := by
    rcases hvalue with rfl | ⟨equals, v, hequals, hv, rfl⟩
    · refine ⟨_, List.Subset.refl _, laidRight.absent "value" ?_⟩
      simp [inField?_cons_of_ne, hlast.field]
    · exact ⟨_, by simp, (laidRight.part "value" hv.kept (by decide)).beside hequals.beside⟩
  obtain ⟨present, sub, laidValue⟩ := laidValue
  have besideMarks : ∀ t ∈ marks, Beside [] ["left", "value", "right", "body"] t := fun t ht =>
    (hmarks t ht).beside
  have laid := ((laidValue.part "left" hleft.kept (by decide)).besideAll besideKind).besideAll besideMarks
  refine gives_construct .loop rfl (by decide) (fun start stop => ?_) ?_
  · have children : marks ++ (kind ++ left.inField "left" :: value ++ [operator.inField "operator",
        right.inField "right", last, body.inField "body"]) =
        marks ++ (kind ++ left.inField "left" :: (value ++ [operator.inField "operator",
          right.inField "right", last, body.inField "body"])) := by simp
    rw [children]
    exact laid.consistsOf (List.cons_subset_cons _ sub)
  · have good : ∀ t ∈ kind, t.Good s := by
      rcases hkind with rfl | ⟨t, ht, rfl⟩
      · simp
      · simpa using ht.good
    simp only [List.mem_append, List.mem_cons, List.not_mem_nil, or_false]
    rintro t (mem | (mem | rfl | mem) | rfl | rfl | rfl | rfl)
    · exact (hmarks t mem).good
    · exact good t mem
    · exact (hleft.inField _).good
    · exact hvalue.good t mem
    · exact (good_inField _).mpr hoperator.good
    · exact (hright.inField _).good
    · exact hlast.good
    · exact (hbody.inField _).good

end Constructs

section Lookahead

theorem looks_seesAtStart (x : String) : (seesAtStart x).Looks := (looks_ahead true).then fun _ => looks_pure _

theorem looks_letDeclares : letDeclares.Looks := by
  refine (looks_ahead false).then fun c => ?_
  dsimp only
  split
  · exact looks_pure _
  · exact looks_pure _

theorem looks_functionAhead : functionAhead.Looks := by
  refine looks_upcomingName.then fun word => ?_
  split
  · exact looks_pure _
  split
  · exact (looks_ahead false).then fun _ => looks_pure _
  · exact looks_pure _

theorem looks_namedFunctionAhead : namedFunctionAhead.Looks := (looks_ahead false).then fun _ => looks_pure _

theorem looks_namedClassAhead : namedClassAhead.Looks := (looks_ahead false).then fun _ => looks_pure _

theorem looks_caseEnds : caseEnds.Looks := (looks_ahead true).then fun _ => looks_pure _

theorem looks_labelAhead : labelAhead.Looks := (looks_ahead false).then fun _ => looks_pure _

theorem looks_importIsOperand : importIsOperand.Looks := (looks_ahead false).then fun _ => looks_pure _

theorem looks_not {r : Reader Bool} (h : r.Looks) : (do return !(← r) : Reader Bool).Looks :=
  h.then fun _ => looks_pure _

end Lookahead

section Declarations

include hrules

theorem gives_blockOf (place : BlockPlace) : (blockOf rules place).Gives s (Whole s) := by
  refine (gives_token _).bind fun first hfirst => ?_
  refine (gives_repeatWhile (looks_not (looks_seesAtStart _)) (hrules _)).bind fun body hbody => ?_
  refine gives_skipMarkup.bind fun _ _ => (gives_token _).bind fun last hlast => ?_
  refine (gives_optionalEnd _).bind fun _ _ => gives_plainNode rfl ?_
  simp only [List.mem_append, List.mem_cons, List.not_mem_nil, or_false]
  rintro t ((rfl | mem) | rfl)
  · exact hfirst.good
  · exact (hbody t mem).good
  · exact hlast.good

theorem gives_destructuring : (destructuring rules).Gives s (Whole s) := by
  refine (looks_sees "[").bind fun isArray => ?_
  refine Gives.join (Whole s) (gives_objectLiteral hrules) (gives_arrayLiteral hrules).bind fun literal h => ?_
  exact gives_orStuck fun _ ht => target?_whole h ht

theorem gives_binding : (binding rules).Gives s (Whole s) := by
  refine (looks_sees _).bind fun isArray => (looks_sees _).bind fun isObject => ?_
  exact gives_ite (fun _ => gives_destructuring hrules) fun _ => (gives_name rfl).mono fun _ h => h.whole

theorem gives_variableDeclarator (context : Context) :
    (variableDeclarator rules context).Gives s fun t => t.Whole s ∧ t.type = "variable_declarator" :=
  (gives_binding hrules).bind fun _ htarget => (gives_initializer hrules context).bind fun _ hvalue =>
    gives_declarator htarget hvalue

theorem gives_declarators : (declarators rules).Gives s fun all => ∀ t ∈ all, IsDeclaratorOrToken s t := by
  refine (gives_variableDeclarator hrules _).bind fun first hfirst => ?_
  have item : (do
      let comma ← token ","
      return [comma, ← variableDeclarator rules .final]).Gives s fun all : List ParseTree =>
        ∀ t ∈ all, IsDeclaratorOrToken s t := by
    refine (gives_token ",").bind fun comma hcomma => ?_
    refine (gives_variableDeclarator hrules _).bind fun next hnext => gives_pure ?_
    simpa using ⟨.inl hcomma, .inr hnext⟩
  refine (gives_repeatWhile (looks_sees ",") item).bind fun more hmore => gives_pure ?_
  simp only [List.mem_cons, List.mem_flatten]
  rintro t (rfl | ⟨all, mem, ht⟩)
  · exact .inr hfirst
  · exact hmore all mem t ht

theorem gives_variableDeclaration (x : String) : (variableDeclaration rules x).Gives s (Whole s) := by
  refine (gives_keyword x).bind fun mark hmark => (gives_declarators hrules).bind fun all hall => ?_
  refine (gives_semicolon _).bind fun closing hclosing => gives_ite (fun _ => ?_) fun _ => ?_
  · exact gives_declaration rfl hmark.kept hmark.good hall hclosing
  · exact gives_declaration rfl hmark.kept ((good_inField _).mpr hmark.good) hall hclosing

theorem gives_expressionStatement : (expressionStatement rules).Gives s (Whole s) := by
  refine (hrules _).bind fun inner hinner => (gives_semicolon true).bind fun closing hclosing => ?_
  exact gives_plainNode rfl (List.forall_mem_cons.mpr ⟨hinner.good, fun t ht => (hclosing t ht).good⟩)

/-- A declaration may follow, or something else. -/
theorem gives_declaration? (canContinue : Bool) {marks : List ParseTree} (hmarks : ∀ t ∈ marks, t.Good s) :
    (declaration? rules canContinue marks).Gives s fun next => ∀ t ∈ next, t.Whole s := by
  refine looks_upcomingName.bind fun word => ?_
  refine gives_ite (fun _ => gives_some (gives_variableDeclaration hrules word)) fun _ => ?_
  refine looks_letDeclares.bind fun isLet => ?_
  refine gives_ite (fun _ => gives_some (gives_variableDeclaration hrules word)) fun _ => ?_
  refine looks_functionAhead.bind fun isFunction => looks_namedFunctionAhead.bind fun isNamed => ?_
  refine gives_ite (fun _ => gives_some (gives_functionOf hrules true _)) fun _ => ?_
  refine looks_namedClassAhead.bind fun isClass => gives_ite (fun _ => ?_) fun _ => gives_pure (by simp)
  refine (gives_classOf hrules true hmarks).bind fun t ht => ?_
  exact gives_some (gives_declarationEnd canContinue ht.1 ht.2)

end Declarations

section Statements

include hrules

theorem gives_ifStatement : (ifStatement rules).Gives s (Whole s) := by
  refine (gives_keyword "if").bind fun mark hmark => (gives_condition hrules).bind fun test htest => ?_
  refine (hrules _).bind fun consequence hconsequence => looks_upcomingName.bind fun word => ?_
  refine gives_ite (fun _ => ?_) fun _ => ?_
  · refine (gives_keyword "else").bind fun word hword => (hrules _).bind fun alternative halternative => ?_
    refine (gives_plainNode rfl (by simp [hword.good, halternative.good])).bind fun clause hclause => ?_
    exact gives_plainNode rfl (by simp [hmark.good, htest.good, hconsequence.good, hclause.good])
  · exact gives_plainNode rfl (by simp [hmark.good, htest.good, hconsequence.good])

theorem gives_whileStatement : (whileStatement rules).Gives s (Whole s) := by
  refine (gives_keyword "while").bind fun mark hmark => (gives_condition hrules).bind fun test htest => ?_
  exact (hrules _).bind fun body hbody => gives_plainNode rfl (by simp [hmark.good, htest.good, hbody.good])

theorem gives_withStatement : (withStatement rules).Gives s (Whole s) := by
  refine (gives_keyword "with").bind fun mark hmark => (gives_condition hrules).bind fun object hobject => ?_
  exact (hrules _).bind fun body hbody => gives_plainNode rfl (by simp [hmark.good, hobject.good, hbody.good])

theorem gives_doStatement : (doStatement rules).Gives s (Whole s) := by
  refine (gives_keyword "do").bind fun mark hmark => (hrules _).bind fun body hbody => ?_
  refine (gives_keyword "while").bind fun word hword => (gives_condition hrules).bind fun test htest => ?_
  refine (looks_canEnd false).bind fun ends => ?_
  refine Gives.join (fun all => ∀ t ∈ all, t.IsToken) (gives_optionalToken ";") (gives_semicolon false).bind
    fun closing hclosing => gives_plainNode rfl ?_
  intro t ht
  rcases List.mem_append.mp ht with mem | mem
  · have lead : ∀ t ∈ [mark, body.inField "body", word, test.inField "condition"], t.Good s := by
      simp [hmark.good, hbody.good, hword.good, htest.good]
    exact lead t mem
  · exact (hclosing t mem).good

theorem gives_forTarget : (forTarget rules).Gives s (IsLoopTarget s) := by
  refine looks_upcomingName.bind fun word => ?_
  refine Gives.join (fun _ => True) (gives_pure trivial) looks_letDeclares.gives.bind fun declares _ => ?_
  refine gives_ite (fun _ => ?_) fun _ => ?_
  · refine (gives_keyword word).bind fun kind hkind => (gives_binding hrules).bind fun target htarget => ?_
    refine Gives.join (IsInitializer s) (gives_pure (.inl rfl)) (gives_initializer hrules _).bind
      fun value hvalue => gives_pure ?_
    exact ⟨[kind.inField "kind"], target, value, .inr ⟨kind, hkind, rfl⟩, htarget, hvalue, rfl⟩
  · refine (gives_primary hrules _).bind fun first hfirst => ?_
    refine (gives_postfixTail hrules _ _ hfirst).bind fun whole hwhole => ?_
    refine gives_ite (fun _ => gives_pure ⟨[], whole, [], .inl rfl, hwhole, .inl rfl, rfl⟩) fun _ => ?_
    have target : (orStuck (target? false whole)).Gives s (Whole s) :=
      gives_orStuck fun _ h => target?_whole hwhole h
    exact target.bind fun t ht => gives_pure ⟨[], t, [], .inl rfl, ht, .inl rfl, rfl⟩

theorem gives_forInStatement : (forInStatement rules).Gives s (Whole s) := by
  refine (gives_keyword "for").bind fun mark hmark => looks_upcomingName.bind fun word => ?_
  refine Gives.join (fun all => ∀ t ∈ all, t.IsToken) (gives_pure (by simp)) (fun rest => ?_) fun wait hwait => ?_
  · exact (gives_keyword "await").bind fun t ht => (gives_pure (by simpa using ht)).bind rest
  refine (gives_token "(").bind fun first hfirst => (gives_forTarget hrules).bind fun target htarget => ?_
  refine looks_upcomingName.bind fun word => gives_ite (fun _ => ?_) fun _ => ?_
  · exact Gives.bind (R := fun _ => False) gives_stuck fun _ h => h.elim
  refine (gives_keyword word).bind fun operator hoperator => (hrules _).bind fun right hright => ?_
  refine (gives_token ")").bind fun last hlast => (hrules _).bind fun body hbody => ?_
  have marks : ∀ t ∈ mark :: wait ++ [first], t.IsToken := by
    simp only [List.mem_append, List.mem_cons, List.not_mem_nil, or_false]
    rintro t ((rfl | mem) | rfl)
    · exact hmark
    · exact hwait t mem
    · exact hfirst
  simpa using gives_loop marks htarget hoperator hright hlast hbody

theorem gives_forPart (field : String) : (forPart rules field).Gives s fun all => ∀ t ∈ all, t.Good s := by
  refine (looks_sees ";").bind fun empty => gives_ite (fun _ => ?_) fun _ => ?_
  · refine (gives_token ";").bind fun mark hmark => ?_
    refine (gives_plainNode rfl (by simpa using hmark.good)).bind fun part hpart => gives_pure ?_
    simpa using hpart.good
  · refine (hrules _).bind fun inner hinner => (gives_token ";").bind fun last hlast => gives_pure ?_
    simp [hinner.good, hlast.good]

theorem gives_forStatement : (forStatement rules).Gives s (Whole s) := by
  refine (gives_keyword "for").bind fun mark hmark => (gives_token "(").bind fun first hfirst => ?_
  refine looks_upcomingName.bind fun word => ?_
  refine Gives.join (fun _ => True) (gives_pure trivial) looks_letDeclares.gives.bind fun declares _ => ?_
  refine Gives.join (fun all => ∀ t ∈ all, t.Good s) (gives_forPart hrules _) (fun rest => ?_)
    fun start hstart => ?_
  · exact (gives_variableDeclaration hrules word).bind fun t ht => (gives_pure (by simpa using ht.good)).bind rest
  refine (gives_forPart hrules _).bind fun test htest => (looks_sees ")").bind fun ends => ?_
  refine Gives.joinElse (fun all => ∀ t ∈ all, t.Good s) (gives_pure (by simp)) (fun rest => ?_) fun step hstep => ?_
  · exact (hrules _).bind fun t ht => (gives_pure (by simpa using ht.good)).bind rest
  refine (gives_token ")").bind fun last hlast => (hrules _).bind fun body hbody => gives_plainNode rfl ?_
  simp only [List.mem_append, List.mem_cons, List.not_mem_nil, or_false]
  rintro t ((((rfl | rfl | mem) | mem) | mem) | rfl | rfl)
  · exact hmark.good
  · exact hfirst.good
  · exact hstart t mem
  · exact htest t mem
  · exact hstep t mem
  · exact hlast.good
  · exact (hbody.inField _).good

theorem gives_catchClause : (catchClause rules).Gives s (Whole s) := by
  refine (gives_keyword "catch").bind fun mark hmark => (looks_sees "(").bind fun bound => ?_
  refine Gives.join (fun all => ∀ t ∈ all, t.Good s) (gives_pure (by simp)) (fun rest => ?_)
    fun parameter hparameter => ?_
  · refine (gives_token "(").bind fun first hfirst => (gives_binding hrules).bind fun target htarget => ?_
    refine (gives_token ")").bind fun last hlast => (gives_pure ?_).bind rest
    simp [hfirst.good, htarget.good, hlast.good]
  refine (hrules _).bind fun body hbody => gives_plainNode rfl ?_
  simp only [List.mem_append, List.mem_cons, List.not_mem_nil, or_false]
  rintro t ((rfl | mem) | rfl)
  · exact hmark.good
  · exact hparameter t mem
  · exact (hbody.inField _).good

theorem gives_finallyClause : (finallyClause rules).Gives s (Whole s) := by
  refine (gives_keyword "finally").bind fun mark hmark => (hrules _).bind fun body hbody => ?_
  exact gives_plainNode rfl (by simp [hmark.good, hbody.good])

theorem gives_tryStatement : (tryStatement rules).Gives s (Whole s) := by
  refine (gives_keyword "try").bind fun mark hmark => (hrules _).bind fun body hbody => ?_
  refine looks_upcomingName.bind fun word => ?_
  refine Gives.join (fun all => ∀ t ∈ all, t.Good s) (gives_pure (by simp)) (fun rest => ?_)
    fun handler hhandler => looks_upcomingName.bind fun word => ?_
  · exact (gives_catchClause hrules).bind fun t ht => (gives_pure (by simpa using ht.good)).bind rest
  refine Gives.join (fun all => ∀ t ∈ all, t.Good s) (gives_pure (by simp)) (fun rest => ?_)
    fun finalizer hfinalizer => gives_plainNode rfl ?_
  · exact (gives_finallyClause hrules).bind fun t ht => (gives_pure (by simpa using ht.good)).bind rest
  simp only [List.mem_append, List.mem_cons]
  rintro t ((rfl | rfl | mem) | mem)
  · exact hmark.good
  · exact (hbody.inField _).good
  · exact hhandler t mem
  · exact hfinalizer t mem

theorem gives_caseBody : (caseBody rules).Gives s fun all => ∀ t ∈ all, t.Good s := by
  refine (gives_repeatWhile (looks_not looks_caseEnds) (hrules _)).bind fun all hall => gives_pure ?_
  intro t ht
  obtain ⟨u, hu, rfl⟩ := List.mem_map.mp ht
  exact ((hall u hu).inField _).good

theorem gives_switchCase : (switchCase rules).Gives s (Whole s) := by
  refine looks_upcomingName.bind fun word => gives_ite (fun _ => ?_) fun _ => ?_
  · refine (gives_keyword "default").bind fun mark hmark => (gives_token ":").bind fun colon hcolon => ?_
    refine (gives_caseBody hrules).bind fun body hbody => gives_plainNode rfl ?_
    simpa [hmark.good, hcolon.good] using hbody
  · refine (gives_keyword "case").bind fun mark hmark => (hrules _).bind fun value hvalue => ?_
    refine (gives_token ":").bind fun colon hcolon => ?_
    refine (gives_caseBody hrules).bind fun body hbody => gives_plainNode rfl ?_
    simpa [hmark.good, hvalue.good, hcolon.good] using hbody

theorem gives_switchStatement : (switchStatement rules).Gives s (Whole s) := by
  refine (gives_keyword "switch").bind fun mark hmark => (gives_condition hrules).bind fun value hvalue => ?_
  refine (gives_token _).bind fun first hfirst => ?_
  refine (gives_repeatWhile (looks_not (looks_seesAtStart _)) (gives_switchCase hrules)).bind
    fun cases hcases => (gives_token _).bind fun last hlast => ?_
  refine (gives_plainNode rfl ?_).bind fun body hbody => gives_plainNode rfl ?_
  · simp only [List.mem_append, List.mem_cons, List.not_mem_nil, or_false]
    rintro t ((rfl | mem) | rfl)
    · exact hfirst.good
    · exact (hcases t mem).good
    · exact hlast.good
  · simp [hmark.good, hvalue.good, hbody.good]

omit hrules in
theorem gives_jumpStatement {word type : String} (plain : isPlainType type) :
    (jumpStatement word type).Gives s (Whole s) := by
  refine (gives_keyword word).bind fun mark hmark => (looks_canEnd false).bind fun ends => ?_
  refine gives_ite (fun _ => ?_) fun _ => (looks_sees ";").bind fun closes => gives_ite (fun _ => ?_) fun _ => ?_
  · refine (gives_semicolon false).bind fun closing hclosing => gives_plainNode plain ?_
    exact List.forall_mem_cons.mpr ⟨hmark.good, fun t ht => (hclosing t ht).good⟩
  · exact (gives_token ";").bind fun last hlast => gives_plainNode plain (by simp [hmark.good, hlast.good])
  · refine (gives_name rfl).bind fun label hlabel => (gives_semicolon false).bind fun closing hclosing => ?_
    refine gives_plainNode plain (List.forall_mem_cons.mpr ⟨hmark.good, List.forall_mem_cons.mpr ⟨?_, ?_⟩⟩)
    · exact (hlabel.whole.inField _).good
    · exact fun t ht => (hclosing t ht).good

theorem gives_returnStatement : (returnStatement rules).Gives s (Whole s) := by
  refine (gives_keyword "return").bind fun mark hmark => (looks_canEnd false).bind fun ends => ?_
  refine gives_ite (fun _ => ?_) fun _ => (looks_sees ";").bind fun closes => gives_ite (fun _ => ?_) fun _ => ?_
  · refine (gives_semicolon false).bind fun closing hclosing => gives_plainNode rfl ?_
    exact List.forall_mem_cons.mpr ⟨hmark.good, fun t ht => (hclosing t ht).good⟩
  · exact (gives_token ";").bind fun last hlast => gives_plainNode rfl (by simp [hmark.good, hlast.good])
  · refine (hrules _).bind fun value hvalue => (gives_semicolon true).bind fun closing hclosing => ?_
    refine gives_plainNode rfl (List.forall_mem_cons.mpr ⟨hmark.good, List.forall_mem_cons.mpr ⟨hvalue.good, ?_⟩⟩)
    exact fun t ht => (hclosing t ht).good

theorem gives_throwStatement : (throwStatement rules).Gives s (Whole s) := by
  refine (gives_keyword "throw").bind fun mark hmark => (hrules _).bind fun value hvalue => ?_
  refine (gives_semicolon true).bind fun closing hclosing => ?_
  refine gives_plainNode rfl (List.forall_mem_cons.mpr ⟨hmark.good, List.forall_mem_cons.mpr ⟨hvalue.good, ?_⟩⟩)
  exact fun t ht => (hclosing t ht).good

theorem gives_labeledStatement : (labeledStatement rules).Gives s (Whole s) := by
  refine (gives_name rfl).bind fun label hlabel => (gives_token ":").bind fun colon hcolon => ?_
  refine (hrules _).bind fun body hbody => gives_plainNode rfl ?_
  simp [hlabel.whole.good, hcolon.good, hbody.good]

end Statements

section Modules

theorem gives_exportName : exportName.Gives s (Good s) := by
  refine (looks_sees _).bind fun double => (looks_sees _).bind fun single => gives_ite (fun _ => ?_) fun _ => ?_
  · exact (gives_lexeme rfl).mono fun _ h => h.whole.good
  · refine looks_upcomingName.bind fun word => gives_ite (fun _ => ?_) fun _ => ?_
    · exact (gives_keyword _).mono fun _ h => h.good
    · exact (gives_name rfl).mono fun _ h => h.whole.good

theorem gives_fromClause : fromClause.Gives s fun all => ∀ t ∈ all, t.Good s := by
  refine (gives_keyword "from").bind fun word hword => (gives_lexeme rfl).bind fun source hsource => gives_pure ?_
  simp [hword.good, hsource.whole.good]

theorem gives_exportSpecifier : exportSpecifier.Gives s (Whole s) := by
  refine gives_exportName.bind fun first hfirst => looks_upcomingName.bind fun word => ?_
  refine gives_ite (fun _ => ?_) fun _ => gives_plainNode rfl (by simpa using hfirst)
  refine (gives_keyword "as").bind fun word hword => gives_exportName.bind fun other hother => ?_
  exact gives_plainNode rfl (by simp [hfirst, hword.good, hother])

theorem gives_importSpecifier : importSpecifier.Gives s (Whole s) := by
  refine gives_exportName.bind fun first hfirst => looks_upcomingName.bind fun word => ?_
  refine gives_ite (fun _ => ?_) fun _ => ?_
  · refine (gives_keyword "as").bind fun word hword => (gives_name rfl).bind fun other hother => ?_
    exact gives_plainNode rfl (by simp [hfirst, hword.good, hother.whole.good])
  · exact gives_ite (fun _ => gives_plainNode rfl (by simpa using hfirst)) fun _ => gives_stuck

theorem gives_nameList {type : String} {item : Reader ParseTree} (plain : isPlainType type)
    (hitem : item.Gives s (Whole s)) : (nameList type item).Gives s (Whole s) := by
  refine (gives_delimited hitem).bind fun all hall => ?_
  have list := gives_plainNode (s := s) plain hall
  exact gives_ite (fun _ => list) fun _ => gives_ite (fun _ => list) fun _ => gives_stuck

theorem gives_namespaceImport : namespaceImport.Gives s (Whole s) := by
  refine (gives_token "*").bind fun star hstar => (gives_keyword "as").bind fun word hword => ?_
  refine (gives_name rfl).bind fun n hn => gives_plainNode rfl ?_
  simp [hstar.good, hword.good, hn.whole.good]

theorem gives_importClause : importClause.Gives s (Whole s) := by
  have group : (do if ← sees "*" then namespaceImport else nameList "named_imports" importSpecifier :
      Reader ParseTree).Gives s (Whole s) := by
    refine (looks_sees "*").bind fun all => gives_ite (fun _ => gives_namespaceImport) fun _ => ?_
    exact gives_nameList rfl gives_importSpecifier
  refine (looks_sees _).bind fun all => (looks_sees _).bind fun list => gives_ite (fun _ => ?_) fun _ => ?_
  · exact group.bind fun t ht => gives_plainNode rfl (by simpa using ht.good)
  refine (gives_name rfl).bind fun first hfirst => (looks_sees ",").bind fun more => gives_ite (fun _ => ?_) fun _ => ?_
  · refine (gives_token ",").bind fun comma hcomma => group.bind fun t ht => gives_plainNode rfl ?_
    simp [hfirst.whole.good, hcomma.good, ht.good]
  · exact gives_plainNode rfl (by simpa using hfirst.whole.good)

include hrules

theorem gives_importStatement : (importStatement rules).Gives s (Whole s) := by
  refine (gives_keyword "import").bind fun mark hmark => (looks_sees _).bind fun double => ?_
  refine (looks_sees _).bind fun single => ?_
  have string : stringLiteral.Gives s fun t => ∀ u ∈ [t.inField "source"], u.Good s :=
    (gives_lexeme rfl).mono fun t ht => by simpa using ht.whole.good
  refine Gives.joinPure (fun all => ∀ t ∈ all, t.Good s) string (fun rest => ?_) fun lead hlead => ?_
  · refine gives_importClause.bind fun clause hclause => gives_fromClause.bind fun source hsource => ?_
    exact (gives_pure (List.forall_mem_cons.mpr ⟨hclause.good, hsource⟩)).bind rest
  refine looks_upcomingName.bind fun word => ?_
  refine Gives.join (fun all => ∀ t ∈ all, t.Good s) (gives_pure (by simp)) (fun rest => ?_)
    fun attributes hattributes => (gives_semicolon false).bind fun closing hclosing => gives_plainNode rfl ?_
  · refine (gives_keyword "with").bind fun word hword => (gives_objectLiteral hrules).bind fun object hobject => ?_
    refine (gives_plainNode rfl (by simp [hword.good, hobject.good])).bind fun t ht => ?_
    exact (gives_pure (by simpa using ht.good)).bind rest
  simp only [List.mem_append, List.mem_cons]
  rintro t (((rfl | mem) | mem) | mem)
  · exact hmark.good
  · exact hlead t mem
  · exact hattributes t mem
  · exact (hclosing t mem).good

theorem gives_exportStatement {marks : List ParseTree} (hmarks : ∀ t ∈ marks, t.Good s) :
    (exportStatement rules marks).Gives s (Whole s) := by
  refine (gives_keyword "export").bind fun mark hmark => ?_
  have node {rest : List ParseTree} (hrest : ∀ t ∈ rest, t.Good s) :
      (branch "export_statement" (marks ++ [mark] ++ rest)).Gives s (Whole s) := by
    refine gives_plainNode rfl ?_
    simp only [List.mem_append, List.mem_cons, List.not_mem_nil, or_false]
    rintro t ((mem | rfl) | mem)
    · exact hmarks t mem
    · exact hmark.good
    · exact hrest t mem
  have ended (rest : List ParseTree) {canContinue : Bool} (hrest : ∀ t ∈ rest, t.Good s) :
      (do branch "export_statement" (marks ++ [mark] ++ rest ++ (← semicolon canContinue))).Gives s (Whole s) := by
    refine (gives_semicolon canContinue).bind fun closing hclosing => ?_
    rw [List.append_assoc]
    refine node fun t ht => ?_
    rcases List.mem_append.mp ht with mem | mem
    · exact hrest t mem
    · exact (hclosing t mem).good
  refine (looks_sees "*").bind fun all => gives_ite (fun _ => ?_) fun _ => ?_
  · refine (gives_token "*").bind fun star hstar => looks_upcomingName.bind fun word => ?_
    refine gives_ite (fun _ => ?_) fun _ => ?_
    · refine (gives_keyword "as").bind fun word hword => gives_exportName.bind fun name hname => ?_
      refine (gives_plainNode rfl (by simp [hstar.good, hword.good, hname])).bind fun space hspace => ?_
      refine gives_fromClause.bind fun source hsource => ?_
      exact ended _ (List.forall_mem_cons.mpr ⟨hspace.good, hsource⟩)
    · refine gives_fromClause.bind fun source hsource => ?_
      exact ended _ (List.forall_mem_cons.mpr ⟨hstar.good, hsource⟩)
  refine (looks_sees _).bind fun list => gives_ite (fun _ => ?_) fun _ => ?_
  · refine (gives_nameList rfl gives_exportSpecifier).bind fun clause hclause => looks_upcomingName.bind fun word => ?_
    refine Gives.join (fun all => ∀ t ∈ all, t.Good s) (gives_pure (by simp)) gives_fromClause.bind
      fun source hsource => ?_
    exact ended _ (List.forall_mem_cons.mpr ⟨hclause.good, hsource⟩)
  refine looks_upcomingName.bind fun word => gives_ite (fun _ => ?_) fun _ => ?_
  · refine (gives_keyword "default").bind fun word hword => (gives_decorators hrules).bind fun inner hinner => ?_
    refine (gives_declaration? hrules true fun t ht => (hinner t ht).1.good).bind fun next hnext => ?_
    cases next with
    | some d => exact node (by simp [hword.good, (hnext d rfl).good])
    | none =>
      refine (hrules _).bind fun value hvalue => ?_
      simpa using ended [word, value.inField "value"] (by simp [hword.good, hvalue.good])
  · refine (gives_decorators hrules).bind fun inner hinner => ?_
    refine (gives_declaration? hrules false fun t ht => (hinner t ht).1.good).bind fun next hnext => ?_
    cases next with
    | some d => exact node (by simpa using (hnext d rfl).good)
    | none => exact gives_stuck

theorem gives_decoratedStatement : (decoratedStatement rules).Gives s (Whole s) := by
  refine (gives_decorators hrules).bind fun marks hmarks => looks_upcomingName.bind fun word => ?_
  have good : ∀ t ∈ marks, t.Good s := fun t ht => (hmarks t ht).1.good
  refine gives_ite (fun _ => gives_exportStatement hrules good) fun _ => ?_
  refine (gives_declaration? hrules true good).bind fun next hnext => ?_
  cases next with
  | some d => exact gives_pure (hnext d rfl)
  | none => exact gives_stuck

theorem gives_wordStatement (word : String) : (wordStatement rules word).Gives s (Whole s) := by
  refine gives_ite (fun _ => gives_ifStatement hrules) fun _ => ?_
  refine gives_ite (fun _ => (gives_forInStatement hrules).orElse (gives_forStatement hrules)) fun _ => ?_
  refine gives_ite (fun _ => gives_whileStatement hrules) fun _ => ?_
  refine gives_ite (fun _ => gives_doStatement hrules) fun _ => ?_
  refine gives_ite (fun _ => gives_returnStatement hrules) fun _ => ?_
  refine gives_ite (fun _ => gives_jumpStatement rfl) fun _ => ?_
  refine gives_ite (fun _ => gives_jumpStatement rfl) fun _ => ?_
  refine gives_ite (fun _ => gives_throwStatement hrules) fun _ => ?_
  refine gives_ite (fun _ => gives_tryStatement hrules) fun _ => ?_
  refine gives_ite (fun _ => gives_switchStatement hrules) fun _ => ?_
  refine gives_ite (fun _ => gives_withStatement hrules) fun _ => gives_ite (fun _ => ?_) fun _ => ?_
  · refine (gives_keyword "debugger").bind fun mark hmark => (gives_semicolon false).bind fun closing hclosing => ?_
    exact gives_plainNode rfl (List.forall_mem_cons.mpr ⟨hmark.good, fun t ht => (hclosing t ht).good⟩)
  refine gives_ite (fun _ => gives_exportStatement hrules (by simp)) fun _ => ?_
  refine looks_importIsOperand.bind fun _ => gives_ite (fun _ => gives_importStatement hrules) fun _ => ?_
  refine looks_functionAhead.bind fun _ => gives_ite (fun _ => ?_) fun _ => ?_
  · refine (looks_ahead false).bind fun c => gives_ite (fun _ => gives_expressionStatement hrules) fun _ => ?_
    refine looks_namedFunctionAhead.bind fun _ => ?_
    exact gives_ite (fun _ => gives_functionOf hrules _ _) fun _ => gives_expressionStatement hrules
  refine looks_labelAhead.bind fun _ => gives_ite (fun _ => gives_labeledStatement hrules) fun _ => ?_
  refine (gives_declaration? hrules true (by simp)).bind fun next hnext => ?_
  cases next with
  | some d => exact gives_pure (hnext d rfl)
  | none => exact gives_expressionStatement hrules

theorem gives_statementOf : (statementOf rules).Gives s (Whole s) := by
  refine gives_skipMarkup.bind fun _ _ => looks_upcoming.bind fun text => ?_
  split
  · exact gives_stuck
  refine gives_ite (fun _ => gives_blockOrObject (hrules _) (gives_expressionStatement hrules)) fun _ => ?_
  refine gives_ite (fun _ => ?_) fun _ => ?_
  · exact (gives_token ";").bind fun mark hmark => gives_plainNode rfl (by simpa using hmark.good)
  refine gives_ite (fun _ => gives_decoratedStatement hrules) fun _ => ?_
  exact gives_ite (fun _ => gives_expressionStatement hrules) fun _ => gives_wordStatement hrules _

end Modules

end ScriptAudit.JavaScript
