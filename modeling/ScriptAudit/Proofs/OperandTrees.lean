import ScriptAudit.JavaScript.Operand
import ScriptAudit.Proofs.ExpressionTrees

namespace ScriptAudit.JavaScript

open ParseTree Reader

variable {s : List Char} {rules : Rules} (hrules : WholeRules s rules)

section Functions

/-- The value behind an equals sign, if there is one. -/
def IsInitializer (s : List Char) (all : List ParseTree) : Prop :=
  all = [] ∨ ∃ equals value : ParseTree, equals.IsToken ∧ value.Whole s ∧ all = [equals, value.inField "value"]

theorem IsInitializer.good {all : List ParseTree} (h : IsInitializer s all) : ∀ t ∈ all, t.Good s := by
  rcases h with rfl | ⟨equals, value, hequals, hvalue, rfl⟩
  · simp
  · simp [hequals.good, hvalue.good]

/-- A name followed by members. -/
theorem gives_memberPath {first : ParseTree} (hfirst : first.Whole s) :
    (iterate (fun left : ParseTree => do
      if ← sees "." then
        let dot ← token "."
        let property ← word "property_identifier"
        return some (← branch "member_expression"
          [left.inField "object", dot, property.inField "property"])
      else return none) first).Gives s (Whole s) := by
  refine gives_iterate (fun left hleft => ?_) hfirst
  refine (looks_sees ".").bind fun more => gives_ite (fun _ => ?_) fun _ => gives_pure (by simp)
  refine (gives_token ".").bind fun dot hdot => (gives_word rfl).bind fun property hproperty => ?_
  exact gives_some (gives_access [dot] [] hleft (isMark_of_token hdot) hproperty.whole (by simp) (.inl rfl))

theorem gives_memberModifier (x : String) (beforeStar : Bool) :
    (memberModifier? x beforeStar).Gives s fun found => ∀ t ∈ found, t.IsToken := by
  refine looks_upcomingName.bind fun word => gives_ite (fun _ => ?_) fun _ => gives_pure (by simp)
  refine (looks_ahead false).bind fun c => gives_ite (fun _ => gives_pure (by simp)) fun _ => ?_
  exact gives_modifier x beforeStar

theorem gives_memberModifiers : memberModifiers.Gives s fun found => ∀ t ∈ found.1, t.IsToken := by
  refine (gives_memberModifier "static" true).bind fun static hstatic => ?_
  refine (gives_memberModifier "async" true).bind fun isAsync hasync => ?_
  refine Gives.join (fun found => ∀ t ∈ found, t.IsToken) (gives_memberModifier "get" false)
    (gives_modifier "get" false).bind fun getter hgetter => ?_
  refine Gives.join (fun found => ∀ t ∈ found, t.IsToken) (gives_pure (by simp))
    (gives_memberModifier "set" false).bind fun setter hsetter => ?_
  refine Gives.join (fun found => ∀ t ∈ found, t.IsToken) (gives_pure (by simp))
    (gives_optionalToken "*").bind fun star hstar => gives_pure ?_
  simp only [List.mem_append, Option.mem_toList]
  rintro t (mem | ((mem | mem) | mem) | mem)
  · exact hstatic t mem
  · exact hasync t mem
  · exact hgetter t mem
  · exact hsetter t mem
  · exact hstar t mem

theorem looks_staticBlockAhead : staticBlockAhead.Looks := by
  refine looks_upcomingName.then fun word => ?_
  split
  · exact (looks_ahead false).then fun c => looks_pure _
  · exact looks_pure _

/-- A declaration keeps its node when its end moves behind an omitted semicolon. -/
theorem gives_declarationEnd (canContinue : Bool) {t : ParseTree} (whole : t.Whole s) (number : t.type ≠ "number") :
    (declarationEnd canContinue t).Gives s (Whole s) := by
  refine (gives_optionalEnd canContinue).bind fun _ _ => gives_here.bind fun c _ => gives_pure ?_
  exact ⟨whole.kept, whole.good.congr rfl rfl rfl fun h => absurd h number⟩

include hrules

theorem gives_functionOf (declared : Bool) (place : BlockPlace) :
    (functionOf rules declared place).Gives s (Whole s) := by
  refine looks_upcomingName.bind fun word => ?_
  refine Gives.join (fun all => ∀ t ∈ all, t.IsToken) (gives_pure (by simp)) (fun rest => ?_)
    fun isAsync hasync => ?_
  · exact (gives_keyword "async").bind fun t ht => (gives_pure (by simpa using ht)).bind rest
  refine (gives_keyword "function").bind fun function hfunction => ?_
  refine (gives_optionalToken "*").bind fun star hstar => (looks_sees "(").bind fun nameless => ?_
  refine Gives.join (fun id => id = [] ∨ ∃ n : ParseTree, n.LeafOf s "identifier" ∧ id = [n.inField "name"])
    (gives_pure (.inl rfl)) (fun rest => ?_) fun id hid => ?_
  · exact (gives_name rfl).bind fun n hn => (gives_pure (.inr ⟨n, hn, rfl⟩)).bind rest
  refine (gives_formalParameters hrules).bind fun params ⟨hparams, list⟩ => (hrules _).bind fun body hbody => ?_
  have marks : ∀ t ∈ isAsync ++ function :: star, t.IsToken := by
    simp only [List.mem_append, List.mem_cons]
    rintro t (mem | rfl | mem)
    · exact hasync t mem
    · exact hfunction
    · exact hstar t mem
  have behind : ∀ t ∈ ([] : List ParseTree), t.IsToken := by simp
  cases declared <;> cases hstars : star.isEmpty
  · have isFunction : shape "generator_function" = .function .expression := rfl
    simpa [hstars] using gives_function isFunction marks hid hparams list behind hbody
  · have isFunction : shape "function_expression" = .function .expression := rfl
    simpa [hstars] using gives_function isFunction marks hid hparams list behind hbody
  · have isFunction : shape "generator_function_declaration" = .function .declaration := rfl
    simpa [hstars] using gives_function isFunction marks hid hparams list behind hbody
  · have isFunction : shape "function_declaration" = .function .declaration := rfl
    simpa [hstars] using gives_function isFunction marks hid hparams list behind hbody

theorem gives_decorator : (decorator rules).Gives s (Whole s) := by
  refine (gives_token "@").bind fun mark hmark => (gives_name rfl).bind fun first hfirst => ?_
  refine (gives_memberPath hfirst.whole).bind fun path hpath => (looks_sees "(").bind fun called => ?_
  refine gives_ite (fun _ => ?_) fun _ => gives_plainNode rfl (by simp [hmark.good, hpath.good])
  refine (gives_argumentList hrules).bind fun args ⟨hargs, type⟩ => ?_
  refine (gives_call [] hpath (by simp) hargs (.inl type)).bind fun call hcall => ?_
  exact gives_plainNode rfl (by simp [hmark.good, hcall.good])

theorem gives_decorators :
    (decorators rules).Gives s fun all => ∀ t ∈ all, t.Whole s ∧ t.field = some "decorator" := by
  refine (gives_repeatWhile (looks_sees "@") (gives_decorator hrules)).bind fun all hall => gives_pure ?_
  intro t ht
  obtain ⟨d, hd, rfl⟩ := List.mem_map.mp ht
  exact ⟨(hall d hd).inField _, rfl⟩

theorem gives_initializer (context : Context) : (initializer rules context).Gives s (IsInitializer s) := by
  refine looks_upcomingOperator.bind fun operator => gives_ite (fun _ => ?_) fun _ => gives_pure (.inl rfl)
  refine (gives_token "=").bind fun equals hequals => (hrules _).bind fun value hvalue => ?_
  exact gives_pure (.inr ⟨equals, value, hequals, hvalue, rfl⟩)

theorem gives_classMember : (classMember rules).Gives s fun all => ∀ t ∈ all, t.Good s := by
  refine (looks_sees ";").bind fun alone => gives_ite (fun _ => ?_) fun _ => ?_
  · exact (gives_token ";").bind fun t ht => gives_pure (by simpa using ht.good)
  refine (gives_decorators hrules).bind fun marks hmarks => looks_staticBlockAhead.bind fun isBlock => ?_
  refine gives_ite (fun _ => ?_) fun _ => ?_
  · refine (gives_keyword "static").bind fun static hstatic => (hrules _).bind fun body hbody => ?_
    refine (gives_plainNode rfl (by simp [hstatic.good, hbody.good])).bind fun block hblock => ?_
    exact gives_pure (by simpa using hblock.good)
  refine gives_memberModifiers.bind fun (modifiers, isMethod) hmodifiers => ?_
  refine (gives_propertyName hrules).bind fun name hname => (looks_sees "(").bind fun params => ?_
  refine gives_ite (fun _ => ?_) fun _ => ?_
  · have lead : MethodLead s (marks ++ modifiers) := by
      intro t ht
      rcases List.mem_append.mp ht with mem | mem
      · exact .inr (hmarks t mem)
      · exact .inl (hmodifiers t mem)
    refine (gives_methodTail hrules lead hname).bind fun method hmethod => ?_
    refine (gives_optionalToken ";").bind fun closing hclosing => gives_pure ?_
    simpa using ⟨hmethod.good, fun t ht => (hclosing t ht).good⟩
  · refine (gives_initializer hrules _).bind fun value hvalue => ?_
    refine (gives_plainNode rfl ?_).bind fun field hfield => ?_
    · simp only [List.mem_append, List.mem_cons]
      rintro t ((mem | mem) | rfl | mem)
      · exact (hmarks t mem).1.good
      · exact (hmodifiers t mem).good
      · exact (hname.inField _).good
      · exact hvalue.good t mem
    · refine (gives_semicolon _).bind fun closing hclosing => gives_pure ?_
      simpa using ⟨hfield.good, fun t ht => (hclosing t ht).good⟩

theorem gives_classBody : (classBody rules).Gives s (Whole s) := by
  have more : (do return !(← sees "\x7d") : Reader Bool).Looks := (looks_sees _).then fun _ => looks_pure _
  refine (gives_token _).bind fun first hfirst => ?_
  refine (gives_repeatWhile more (gives_classMember hrules)).bind fun members hmembers => ?_
  refine (gives_token _).bind fun last hlast => gives_plainNode rfl ?_
  simp only [List.mem_append, List.mem_cons, List.mem_flatten, List.not_mem_nil, or_false]
  rintro t ((rfl | ⟨all, mem, ht⟩) | rfl)
  · exact hfirst.good
  · exact hmembers all mem t ht
  · exact hlast.good

theorem gives_classOf (declared : Bool) {marks : List ParseTree} (hmarks : ∀ t ∈ marks, t.Good s) :
    (classOf rules declared marks).Gives s fun t => t.Whole s ∧ t.type ≠ "number" := by
  refine (gives_keyword "class").bind fun mark hmark => looks_upcomingName.bind fun next => ?_
  refine Gives.join (fun all => ∀ t ∈ all, t.Good s) (gives_pure (by simp)) (fun rest => ?_) fun id hid => ?_
  · exact (gives_name rfl).bind fun n hn => (gives_pure (by simpa using hn.whole.good)).bind rest
  refine looks_upcomingName.bind fun word => ?_
  refine Gives.join (fun all => ∀ t ∈ all, t.Good s) (gives_pure (by simp)) (fun rest => ?_)
    fun heritage hheritage => ?_
  · refine (gives_keyword "extends").bind fun extends_ hextends => (hrules _).bind fun base hbase => ?_
    refine (gives_plainNode rfl (by simp [hextends.good, hbase.good])).bind fun clause hclause => ?_
    exact (gives_pure (by simpa using hclause.good)).bind rest
  refine (gives_classBody hrules).bind fun body hbody => ?_
  have good : ∀ t ∈ marks ++ mark :: id ++ heritage ++ [body.inField "body"], t.Good s := by
    simp only [List.mem_append, List.mem_cons, List.not_mem_nil, or_false]
    rintro t (((mem | rfl | mem) | mem) | rfl)
    · exact hmarks t mem
    · exact hmark.good
    · exact hid t mem
    · exact hheritage t mem
    · exact (hbody.inField _).good
  cases declared with
  | true => exact (gives_plain rfl good).mono fun t ht => ⟨ht.1, by rw [ht.2]; decide⟩
  | false => exact (gives_plain rfl good).mono fun t ht => ⟨ht.1, by rw [ht.2]; decide⟩

end Functions

section Markup

theorem gives_markupName {type : String} (leaf : isLeafType type) :
    (markupName type).Gives s (LeafOf s type) := gives_lexeme leaf

theorem gives_qualified {first : ParseTree} {type : String} (hfirst : first.LeafOf s type) :
    (qualified first).Gives s (Whole s) := by
  refine (looks_sees ":").bind fun isQualified => gives_ite (fun _ => ?_) fun _ => gives_pure hfirst.whole
  refine (gives_token ":").bind fun colon hcolon => (gives_markupName rfl).bind fun name hname => ?_
  have space := whole_of_leaf (s := s) (t := { first with type := "identifier" }) hfirst.whole.named rfl
    hfirst.children
  exact gives_plainNode rfl (by simp [space.good, hcolon.good, hname.whole.good])

theorem gives_elementName : elementName.Gives s (Whole s) := by
  refine (gives_markupName rfl).bind fun first hfirst => (looks_sees ".").bind fun isMember => ?_
  exact gives_ite (fun _ => gives_memberPath hfirst.whole) fun _ => gives_qualified hfirst

include hrules

theorem gives_markupExpression : (markupExpression rules).Gives s (Whole s) := by
  refine (gives_token _).bind fun first hfirst => (looks_sees _).bind fun empty => ?_
  refine gives_ite (fun _ => ?_) fun _ => (looks_sees "...").bind fun spread => ?_
  · exact (gives_token _).bind fun last hlast => gives_plainNode rfl (by simp [hfirst.good, hlast.good])
  · refine Gives.join (Whole s) (hrules _) (gives_expressionOrSpread hrules).bind fun inner hinner => ?_
    refine (gives_token _).bind fun last hlast => gives_plainNode rfl ?_
    simp [hfirst.good, hinner.good, hlast.good]

theorem gives_attributeValue : (attributeValue rules).Gives s (Whole s) := by
  refine (looks_sees _).bind fun braces => gives_ite (fun _ => gives_markupExpression hrules) fun _ => ?_
  refine (looks_sees _).bind fun element => gives_ite (fun _ => hrules _) fun _ => ?_
  exact (gives_lexeme rfl).mono fun _ h => h.whole

theorem gives_attribute : (attribute_ rules).Gives s (Whole s) := by
  refine (looks_sees _).bind fun braces => gives_ite (fun _ => gives_markupExpression hrules) fun _ => ?_
  refine (gives_markupName rfl).bind fun first hfirst => (gives_qualified hfirst).bind fun name hname => ?_
  refine (looks_sees "=").bind fun valued => gives_ite (fun _ => ?_) fun _ => ?_
  · refine (gives_token "=").bind fun equals hequals => (gives_attributeValue hrules).bind fun value hvalue => ?_
    exact gives_plainNode rfl (by simp [hname.good, hequals.good, hvalue.good])
  · exact gives_plainNode rfl (by simpa using hname.good)

theorem gives_elementChildren : (elementChildren rules).Gives s fun all => ∀ t ∈ all, t.Good s := by
  refine Gives.bind (R := fun all : List ParseTree => ∀ t ∈ all, t.Good s) (gives_iterate ?_ (by simp)) ?_
  · intro found hfound
    have grown {t : ParseTree} (ht : t.Good s) : ∀ b ∈ some (t :: found), ∀ u ∈ b, u.Good s := by
      simpa using ⟨ht, hfound⟩
    refine gives_here.bind fun c hc => gives_ite (fun _ => ?_) fun _ => ?_
    · have text : (leafAt "jsx_text" true (textLength c.rest) c).1.LeafOf s "jsx_text" := leafOf_leafAt rfl _ c
      exact (gives_moveTo (hc.advance _)).bind fun _ _ => gives_pure (grown text.whole.good)
    refine (gives_moveTo (hc.skipWhile _)).bind fun _ _ => (looks_sees _).bind fun closes => ?_
    refine gives_ite (fun _ => gives_pure (by simp)) fun _ => (looks_sees _).bind fun element => ?_
    refine gives_ite (fun _ => (hrules _).bind fun t ht => gives_pure (grown ht.good)) fun _ => ?_
    refine (looks_sees _).bind fun braces => gives_ite (fun _ => ?_) fun _ => ?_
    · exact (gives_markupExpression hrules).bind fun t ht => gives_pure (grown ht.good)
    · exact (gives_lexeme rfl).bind fun t ht => gives_pure (grown ht.whole.good)
  · intro found hfound
    exact gives_pure (by simpa using hfound)

theorem gives_markupElement : (markupElement rules).Gives s (Whole s) := by
  have named {k : List ParseTree → Reader ParseTree}
      (rest : ∀ all : List ParseTree, (∀ t ∈ all, t.Good s) → (k all).Gives s (Whole s)) :
      (elementName >>= fun t => pure [t.inField "name"] >>= k).Gives s (Whole s) :=
    gives_elementName.bind fun t ht => (gives_pure (by simpa using ht.good)).bind rest
  have more : (do return !((← sees ">") || (← sees "/>")) : Reader Bool).Looks :=
    (looks_sees _).then fun _ => (looks_sees _).then fun _ => looks_pure _
  refine (gives_token "<").bind fun first hfirst => (looks_sees ">").bind fun fragment => ?_
  refine Gives.joinElse (fun all => ∀ t ∈ all, t.Good s) (gives_pure (by simp)) named fun name hname => ?_
  refine Gives.joinElse (fun all => ∀ t ∈ all, t.Good s) (gives_pure (by simp)) (fun rest => ?_)
    fun attributes hattributes => ?_
  · exact ((gives_repeatWhile more (gives_attribute hrules)).mono fun all hall t ht => (hall t ht).good).bind rest
  have lead : ∀ t ∈ first :: name ++ attributes.map (·.inField "attribute"), t.Good s := by
    simp only [List.mem_append, List.mem_cons, List.mem_map]
    rintro t ((rfl | mem) | ⟨u, mem, rfl⟩)
    · exact hfirst.good
    · exact hname t mem
    · exact (good_inField _).mpr (hattributes u mem)
  have closed {last : ParseTree} (hlast : last.IsToken) :
      ∀ t ∈ first :: name ++ attributes.map (·.inField "attribute") ++ [last], t.Good s := by
    intro t ht
    rcases List.mem_append.mp ht with mem | mem
    · exact lead t mem
    · rw [List.mem_singleton.mp mem]
      exact hlast.good
  refine (looks_sees "/>").bind fun closes => gives_ite (fun _ => ?_) fun _ => ?_
  · exact (gives_token "/>").bind fun last hlast => gives_plainNode rfl (closed hlast)
  refine (gives_token ">").bind fun last hlast => (gives_plainNode rfl (closed hlast)).bind fun tag htag => ?_
  refine (gives_elementChildren hrules).bind fun children hchildren => ?_
  refine (gives_token "</").bind fun slash hslash => (looks_sees ">").bind fun fragment => ?_
  refine Gives.joinElse (fun all => ∀ t ∈ all, t.Good s) (gives_pure (by simp)) named fun closing hclosing => ?_
  refine (gives_token ">").bind fun last hlast => (gives_plainNode rfl ?_).bind fun behind hbehind => ?_
  · simp only [List.mem_append, List.mem_cons, List.not_mem_nil, or_false]
    rintro t ((rfl | mem) | rfl)
    · exact hslash.good
    · exact hclosing t mem
    · exact hlast.good
  · refine gives_plainNode rfl ?_
    simp only [List.mem_append, List.mem_cons, List.not_mem_nil, or_false]
    rintro t ((rfl | mem) | rfl)
    · exact (htag.inField _).good
    · exact hchildren t mem
    · exact (hbehind.inField _).good

end Markup

section Operands

theorem gives_importOperand : importOperand.Gives s (Whole s) := by
  refine (gives_namedKeyword rfl).bind fun mark hmark => (looks_sees ".").bind fun dotted => ?_
  refine gives_ite (fun _ => ?_) fun _ => ?_
  · refine (looks_ahead false).bind fun c => gives_ite (fun _ => ?_) fun _ => gives_pure hmark.whole
    refine (gives_token ".").bind fun dot hdot => (gives_keyword "meta").bind fun word hword => ?_
    have token : ({ mark with named := false } : ParseTree).Good s :=
      good_of_not_kept rfl hmark.children
    exact gives_plainNode rfl (by simp [token, hdot.good, hword.good])
  · refine (looks_sees "(").bind fun called => ?_
    exact gives_ite (fun _ => gives_pure hmark.whole) fun _ => gives_stuck

theorem leaf_of_constantWord {x : String} (h : isConstantWord x) : isLeafType x := by
  have mem : x ∈ ["this", "super", "true", "false", "null", "undefined"] := List.contains_iff_mem.mp h
  simp only [List.mem_cons, List.not_mem_nil, or_false] at mem
  rcases mem with rfl | rfl | rfl | rfl | rfl | rfl <;> rfl

include hrules

theorem gives_asyncOperand (context : Context) : (asyncOperand rules context).Gives s (Whole s) := by
  have plain := gives_nameOrArrow hrules context
  refine (looks_ahead false).bind fun c => gives_ite (fun _ => plain) fun _ => ?_
  refine gives_ite (fun _ => gives_functionOf hrules _ _) fun _ => ?_
  have mark {t : ParseTree} (ht : t.IsToken) : ∀ u ∈ [t], u.IsToken := by simpa using ht
  refine gives_ite (fun _ => Gives.orElse ?_ plain) fun _ => ?_
  · refine (gives_keyword "async").bind fun t ht => (gives_name rfl).bind fun parameter hparameter => ?_
    exact gives_arrowTail hrules context ⟨[t], parameter, mark ht, hparameter.whole, .inl rfl⟩
  refine gives_ite (fun _ => Gives.orElse ?_ plain) fun _ => plain
  refine (gives_keyword "async").bind fun t ht => (gives_formalParameters hrules).bind fun params hparams => ?_
  exact gives_arrowTail hrules context ⟨[t], params, mark ht, hparams.1, .inr ⟨hparams.2, rfl⟩⟩

theorem gives_wordOperand (context : Context) (x : String) :
    (wordOperand rules context x).Gives s (Whole s) := by
  have plain := gives_nameOrArrow hrules context
  refine gives_ite (fun _ => gives_functionOf hrules _ _) fun _ => ?_
  refine gives_ite (fun _ => (gives_classOf hrules false (by simp)).mono fun _ h => h.1) fun _ => ?_
  refine gives_ite (fun _ => gives_newExpression hrules context) fun _ => ?_
  refine gives_ite (fun _ => gives_asyncOperand hrules context) fun _ => ?_
  refine gives_ite (fun _ => gives_importOperand) fun _ => gives_ite (fun _ => ?_) fun _ => ?_
  · refine plain.bind fun n hn => gives_pure ?_
    split
    next h => exact hn.retype (by rw [eq_of_beq h]; rfl) rfl
    next => exact hn
  · refine gives_ite (fun h => ?_) fun _ => plain
    exact (gives_namedKeyword (leaf_of_constantWord h)).mono fun _ h => h.whole

theorem gives_primary (context : Context) : (primary rules context).Gives s (Whole s) := by
  refine looks_upcoming.bind fun text => ?_
  split
  · exact gives_stuck
  refine gives_ite (fun _ => gives_parenthesized hrules context) fun _ => ?_
  refine gives_ite (fun _ => gives_arrayLiteral hrules) fun _ => ?_
  refine gives_ite (fun _ => gives_objectLiteral hrules) fun _ => ?_
  refine gives_ite (fun _ => (gives_templateLiteral hrules).mono fun _ h => h.1) fun _ => ?_
  refine gives_ite (fun _ => (gives_lexeme rfl).mono fun _ h => h.whole) fun _ => ?_
  refine gives_ite (fun _ => gives_number.mono fun _ h => h.whole) fun _ => ?_
  refine gives_ite (fun _ => (gives_lexeme rfl).mono fun _ h => h.whole) fun _ => ?_
  refine gives_ite (fun _ => hrules _) fun _ => gives_ite (fun _ => ?_) fun _ => ?_
  · refine (gives_decorators hrules).bind fun marks hmarks => ?_
    exact (gives_classOf hrules false fun t ht => (hmarks t ht).1.good).mono fun _ h => h.1
  refine gives_ite (fun _ => ?_) fun _ => ?_
  · refine gives_privateName.bind fun n hn => looks_upcomingName.bind fun word => ?_
    exact gives_ite (fun _ => gives_pure hn.whole) fun _ => gives_stuck
  · exact gives_ite (fun _ => gives_stuck) fun _ => gives_wordOperand hrules context _

theorem gives_makerOf (context : Context) : (makerOf rules context).Gives s (Whole s) := by
  refine looks_upcomingName.bind fun word => gives_ite (fun _ => gives_newExpression hrules context) fun _ => ?_
  exact (gives_primary hrules context).bind fun first hfirst => gives_postfixTail hrules context _ hfirst

theorem gives_prefixed (context : Context) (level : Nat) : (prefixed rules context level).Gives s (Whole s) := by
  refine gives_skipMarkup.bind fun _ _ => looks_upcoming.bind fun text => ?_
  refine gives_ite (fun _ => gives_unary hrules context (gives_keyword _)) fun _ => ?_
  refine gives_ite (fun _ => gives_awaitExpression hrules context) fun _ => ?_
  refine gives_ite (fun _ => gives_yieldExpression hrules context) fun _ => ?_
  split
  · exact gives_prefixUpdate hrules context _
  · exact gives_prefixUpdate hrules context _
  · exact gives_unary hrules context (gives_token _)
  · exact gives_unary hrules context (gives_token _)
  · exact gives_unary hrules context (gives_token _)
  · exact gives_unary hrules context (gives_token _)
  · refine (gives_primary hrules context).bind fun first hfirst => ?_
    refine (gives_postfixTail hrules context _ hfirst).bind fun whole hwhole => ?_
    refine (looks_canEnd true).bind fun ends => gives_ite (fun _ => gives_pure hwhole) fun _ => ?_
    exact gives_assignmentTail hrules context hwhole

theorem gives_operandOf (context : Context) (level : Nat) : (operandOf rules context level).Gives s (Whole s) :=
  (gives_prefixed hrules context level).bind fun _ hfirst => gives_infixTail hrules context level hfirst

end Operands

end ScriptAudit.JavaScript
