import ScriptAudit.JavaScript.Expression
import ScriptAudit.Proofs.Patterns

namespace ScriptAudit.JavaScript

open ParseTree Reader

variable {s : List Char}

/-- All symbols are read as whole trees. -/
def WholeRules (s : List Char) (rules : Rules) : Prop := ∀ symbol, (rules symbol).Gives s (Whole s)

/-- A token between the parts of an access, or the mark of an optional one. -/
def IsMark (s : List Char) (t : ParseTree) : Prop :=
  t.IsToken ∨ t.Whole s ∧ t.type = "optional_chain" ∧ t.field = some "optional_chain"

theorem IsMark.good {t : ParseTree} (h : IsMark s t) : t.Good s := by
  rcases h with token | ⟨whole, -, -⟩
  · exact token.good
  · exact whole.good

theorem IsMark.beside {t : ParseTree} {fields : List String} (h : IsMark s t)
    (hf : "optional_chain" ∉ fields) : Beside ["optional_chain"] fields t := by
  rcases h with token | ⟨-, -, field⟩
  · exact token.beside
  · refine ⟨fun _ => by simp [fillsAny, field], fun f mem same => ?_⟩
    rw [field] at same
    cases same
    exact hf mem

theorem isMark_chain {t : ParseTree} (h : t.IsToken) :
    IsMark s (({ t with type := "optional_chain", named := true } : ParseTree).inField "optional_chain") :=
  .inr ⟨(whole_of_leaf (t := { t with type := "optional_chain", named := true }) rfl rfl h.children).inField _,
    rfl, rfl⟩

theorem plainChain_of_marks {t first last : ParseTree} {marks : List ParseTree} (behind : List ParseTree)
    (children : t.children = first :: marks ++ last :: behind) (hfirst : first.field ≠ some "optional_chain")
    (hlast : last.field ≠ some "optional_chain") (hmarks : ∀ t ∈ marks, IsMark s t)
    (hbehind : ∀ t ∈ behind, t.IsToken) : t.PlainChain := by
  intro c hc field
  obtain ⟨mem, kept⟩ := mem_keptChildren.mp hc
  rw [children] at mem
  simp only [List.cons_append, List.mem_cons, List.mem_append] at mem
  rcases mem with rfl | mem | rfl | mem
  · exact absurd field hfirst
  · rcases hmarks c mem with token | ⟨-, type, -⟩
    · rw [token.kept] at kept
      cases kept
    · exact type
  · exact absurd field hlast
  · rw [(hbehind c mem).kept] at kept
    cases kept

/-- An access of a member: its object, marks, its property, and tokens behind. -/
theorem gives_access {type : String} {left property : ParseTree} (marks behind : List ParseTree)
    (hleft : left.Whole s) (hmarks : ∀ t ∈ marks, IsMark s t) (hproperty : property.Whole s)
    (hbehind : ∀ t ∈ behind, t.IsToken) (htype : type = "member_expression" ∨ type = "subscript_expression") :
    (branch type (left.inField "object" :: marks ++
      property.inField (propertyField type) :: behind)).Gives s (Whole s) := by
  have tokens : ∀ t ∈ behind, Beside ["optional_chain"] [] t := fun t ht => (hbehind t ht).beside
  have good : ∀ c ∈ left.inField "object" :: marks ++ property.inField (propertyField type) :: behind,
      c.Good s := by
    simp only [List.cons_append, List.mem_cons, List.mem_append]
    rintro c (rfl | mem | rfl | mem)
    · exact (hleft.inField _).good
    · exact (hmarks c mem).good
    · exact (hproperty.inField _).good
    · exact (hbehind c mem).good
  have isMember : shape type = .member := by rcases htype with rfl | rfl <;> rfl
  have apart : propertyField type ≠ "object" ∧ propertyField type ≠ "optional_chain" := by
    rcases htype with rfl | rfl <;> decide
  have laid : Laid ["optional_chain"] ["object", propertyField type] ["object", propertyField type]
      (left.inField "object" :: marks ++ property.inField (propertyField type) :: behind) :=
    (((laid_of_beside tokens).part _ hproperty.kept (by simp [apart])).besideAll fun t ht =>
      (hmarks t ht).beside (by simp [apart.2.symm])).part _ hleft.kept (by simp [apart.1.symm])
  refine gives_construct .member isMember (by decide) (fun start stop => ⟨laid.consistsOf (List.Subset.refl _), ?_⟩) good
  exact plainChain_of_marks behind rfl (by simp) (by simp [apart.2]) hmarks hbehind

/-- A call with its marks and its arguments. -/
theorem gives_call {left args : ParseTree} (marks : List ParseTree) (hleft : left.Whole s)
    (hmarks : ∀ t ∈ marks, IsMark s t) (hargs : args.Whole s)
    (htype : args.type = "arguments" ∨ args.type = "template_string") :
    (branch "call_expression" (left.inField "function" :: marks ++ [args.inField "arguments"])).Gives s
      (Whole s) := by
  refine gives_construct .call rfl (by decide) (fun start stop => ⟨?_, ?_, ?_⟩) ?_
  · have laid := (((laid_nil ["optional_chain"]).part "arguments" hargs.kept (by decide)).besideAll fun t ht =>
      (hmarks t ht).beside (by decide)).part "function" hleft.kept (by decide)
    exact laid.consistsOf (by simp)
  · exact plainChain_of_marks [] rfl (by simp) (by simp) hmarks (by simp)
  · intro c hc
    have found : inField? "arguments" (left.inField "function" :: marks ++ [args.inField "arguments"]) =
        some (args.inField "arguments") := by
      have marksApart : ∀ t ∈ marks, t.field ≠ some "arguments" := fun t ht =>
        ((hmarks t ht).beside (by decide : "optional_chain" ∉ ["arguments"])).2 _ (by simp)
      simp [inField?_append_of_ne marksApart]
    obtain rfl : args.inField "arguments" = c := Option.some.inj (found.symm.trans hc)
    exact htype
  · simp only [List.cons_append, List.mem_cons, List.mem_append]
    rintro c (rfl | mem | rfl | mem)
    · exact (hleft.inField _).good
    · exact (hmarks c mem).good
    · exact (hargs.inField _).good
    · cases mem

theorem gives_assignment {type : String} {left mark right : ParseTree} (hshape : shape type = .assignment)
    (hleft : left.Whole s) (hmark : mark.Good s) (beside : Beside [] ["right"] mark)
    (hright : right.Whole s) :
    (branch type [left.inField "left", mark, right.inField "right"]).Gives s (Whole s) := by
  refine gives_construct .assignment hshape (by decide) (fun start stop => ?_) ?_
  · have laid := (((laid_nil []).part "right" hright.kept (by decide)).beside beside).part "left" hleft.kept (by decide)
    exact laid.consistsOf (by simp)
  · simp [hleft.good, hmark, hright.good]

/-- A function with a list of parameters. -/
theorem gives_function {type : String} {form : FunctionForm} {marks id behind : List ParseTree}
    {params body : ParseTree} (hshape : shape type = .function form) (hmarks : ∀ t ∈ marks, t.IsToken)
    (hid : id = [] ∨ ∃ n : ParseTree, n.LeafOf s "identifier" ∧ id = [n.inField "name"])
    (hparams : params.Whole s) (list : params.type = "formal_parameters")
    (hbehind : ∀ t ∈ behind, t.IsToken) (hbody : body.Whole s) :
    (branch type (marks ++ (id ++ params.inField "parameters" :: (behind ++ [body.inField "body"])))).Gives s
      (Whole s) := by
  have lacks {f : String} (hf : f ≠ "parameters" ∧ f ≠ "body") :
      inField? f (params.inField "parameters" :: (behind ++ [body.inField "body"])) = none := by
    simp [hf.1.symm, hf.2.symm, inField?_tokens hbehind]
  have laid := ((((laid_nil []).part "body" hbody.kept (by decide)).besideAll fun t ht =>
    (hbehind t ht).beside).part "parameters" hparams.kept (by decide)).absent "parameter" (lacks (by decide))
  have good : ∀ c ∈ marks ++ (id ++ params.inField "parameters" :: (behind ++ [body.inField "body"])),
      c.Good s := by
    have ofId : ∀ c ∈ id, c.Good s := by
      rcases hid with rfl | ⟨n, hn, rfl⟩
      · simp
      · simp [hn.whole.good]
    simp only [List.mem_append, List.mem_cons, List.not_mem_nil, or_false]
    rintro c (mem | mem | rfl | mem | rfl)
    · exact (hmarks c mem).good
    · exact ofId c mem
    · exact (hparams.inField _).good
    · exact (hbehind c mem).good
    · exact (hbody.inField _).good
  refine gives_construct (.function form) hshape (by simp) (fun start stop => ?_) good
  rcases hid with rfl | ⟨n, hn, rfl⟩
  · have whole := (laid.absent "name" (lacks (by decide))).besideAll fun t ht => (hmarks t ht).beside
    refine ⟨whole.consistsOf (by simp), ?_, ?_, ?_⟩
    · simp [inField?_tokens hmarks, lacks]
    · simp [inField?_tokens hmarks, list]
    · simp [inField?_tokens hmarks, lacks]
  · have whole := (laid.part "name" hn.whole.kept (by decide)).besideAll fun t ht => (hmarks t ht).beside
    refine ⟨whole.consistsOf (by simp), ?_, ?_, ?_⟩
    · simp [inField?_tokens hmarks, hn.type]
      rfl
    · simp [inField?_tokens hmarks, list]
    · simp [inField?_tokens hmarks, lacks]

/-- A function with a single parameter. -/
theorem gives_arrowOfName {marks : List ParseTree} {parameter arrow body : ParseTree}
    (hmarks : ∀ t ∈ marks, t.IsToken) (hparameter : parameter.Whole s) (harrow : arrow.IsToken)
    (hbody : body.Whole s) :
    (branch "arrow_function" (marks ++ [parameter.inField "parameter", arrow, body.inField "body"])).Gives s
      (Whole s) := by
  have laid := ((((((laid_nil []).part "body" hbody.kept (by decide)).beside harrow.beside).absent "parameters"
    (by simp [inField?_cons_of_ne, harrow.field])).part "parameter" hparameter.kept (by decide)).absent "name"
    (by simp [inField?_cons_of_ne, harrow.field])).besideAll fun t ht => (hmarks t ht).beside
  refine gives_construct (.function .arrow) rfl (by simp) (fun start stop => ?_) ?_
  · refine ⟨laid.consistsOf (by simp), ?_, ?_, ?_⟩
    · simp [inField?_tokens hmarks, inField?_cons_of_ne, harrow.field]
    · simp [inField?_tokens hmarks, inField?_cons_of_ne, harrow.field]
    · simp [inField?_tokens hmarks, inField?_cons_of_ne, harrow.field]
  · simp only [List.mem_append, List.mem_cons, List.not_mem_nil, or_false]
    rintro c (mem | rfl | rfl | rfl)
    · exact (hmarks c mem).good
    · exact (hparameter.inField _).good
    · exact harrow.good
    · exact (hbody.inField _).good

/-- What may stand in front of an arrow: tokens and a parameter or a list of them. -/
def ArrowLead (s : List Char) (lead : List ParseTree) : Prop :=
  ∃ (marks : List ParseTree) (p : ParseTree), (∀ t ∈ marks, t.IsToken) ∧ p.Whole s ∧
    (lead = marks ++ [p.inField "parameter"] ∨
      p.type = "formal_parameters" ∧ lead = marks ++ [p.inField "parameters"])

theorem gives_arrow {lead : List ParseTree} {arrow body : ParseTree} (hlead : ArrowLead s lead)
    (harrow : arrow.IsToken) (hbody : body.Whole s) :
    (branch "arrow_function" (lead ++ [arrow, body.inField "body"])).Gives s (Whole s) := by
  obtain ⟨marks, p, hmarks, hp, rfl | ⟨list, rfl⟩⟩ := hlead
  · simpa using gives_arrowOfName hmarks hp harrow hbody
  · have behind : ∀ t ∈ [arrow], t.IsToken := by simpa using harrow
    have isArrow : shape "arrow_function" = .function .arrow := rfl
    simpa using gives_function isArrow hmarks (.inl rfl) hp list behind hbody

section

variable {rules : Rules} (hrules : WholeRules s rules)

theorem gives_orStuck {α : Type} {P : α → Prop} {a : Option α} (h : ∀ x, a = some x → P x) :
    (orStuck a).Gives s P := by
  cases a with
  | none => exact gives_stuck
  | some x => exact gives_pure (h x rfl)

theorem gives_blockOrObject {block object : Reader ParseTree} (hblock : block.Gives s (Whole s))
    (hobject : object.Gives s (Whole s)) : (blockOrObject block object).Gives s (Whole s) := by
  refine looks_upcoming.bind fun inside => ?_
  exact gives_ite (fun _ => hobject.orElse hblock) fun _ => hblock.orElse hobject

include hrules

theorem gives_expressionOrSpread : (expressionOrSpread rules).Gives s (Whole s) := by
  refine (looks_sees "...").bind fun spread => gives_ite (fun _ => ?_) fun _ => hrules _
  refine (gives_token "...").bind fun dots hdots => ?_
  refine (hrules _).bind fun inner hinner => gives_plainNode rfl ?_
  simp [hdots.good, hinner.good]

theorem gives_argumentList : (argumentList rules).Gives s fun t => t.Whole s ∧ t.type = "arguments" :=
  (gives_delimited (gives_expressionOrSpread hrules)).bind fun _ hall => gives_plain rfl hall

theorem gives_arrayLiteral : (arrayLiteral rules).Gives s (Whole s) :=
  (gives_delimited (gives_expressionOrSpread hrules)).bind fun _ hall => gives_plainNode rfl hall

omit hrules in
theorem gives_parametersOf {all : List ParseTree} (hall : ∀ t ∈ all, t.Good s) :
    (parametersOf all).Gives s fun t => t.Whole s ∧ t.type = "formal_parameters" := by
  refine gives_ite (fun _ => ?_) fun _ => gives_stuck
  have targets : (orStuck (elementTargets? all)).Gives s fun found => ∀ t ∈ found, t.Good s :=
    gives_orStuck fun found h => elementTargets?_good (partsStand all hall) h
  exact targets.bind fun found hfound => gives_plain rfl hfound

theorem gives_formalParameters :
    (formalParameters rules).Gives s fun t => t.Whole s ∧ t.type = "formal_parameters" :=
  (gives_delimited (gives_expressionOrSpread hrules)).bind fun _ hall => gives_parametersOf hall

theorem gives_arrowTail (context : Context) {lead : List ParseTree} (hlead : ArrowLead s lead) :
    (arrowTail rules context lead).Gives s (Whole s) := by
  refine (gives_token "=>").bind fun arrow harrow => (looks_sees _).bind fun brace => ?_
  refine Gives.join (Whole s) (hrules _) (fun rest => ?_) fun body hbody => gives_arrow hlead harrow hbody
  exact (gives_blockOrObject (hrules _) (hrules _)).bind rest

theorem gives_parenthesized (context : Context) : (parenthesized rules context).Gives s (Whole s) := by
  refine (gives_delimited (gives_expressionOrSpread hrules)).bind fun all hall => ?_
  refine (looks_sees "=>").bind fun arrow => gives_ite (fun _ => ?_) fun _ => ?_
  · refine (gives_parametersOf hall).bind fun params ⟨whole, list⟩ => ?_
    exact gives_arrowTail hrules context ⟨[], params, by simp, whole, .inr ⟨list, rfl⟩⟩
  · split
    next first item items last hfirst hitems hlast =>
      have inside : ∀ t ∈ item :: items, t.Good s := by
        intro t ht
        rw [← hitems] at ht
        exact hall t (List.mem_of_mem_drop (List.dropLast_subset _ ht))
      have inner : (if items.isEmpty then item else cover "sequence_expression" item items).Good s := by
        split
        · exact inside item List.mem_cons_self
        · exact (whole_of_plain rfl rfl inside).good
      refine gives_ite (fun _ => gives_plainNode rfl ?_) fun _ => gives_stuck
      simp only [List.mem_cons, List.not_mem_nil, or_false]
      rintro t (rfl | rfl | rfl)
      · exact hall t (List.mem_of_mem_head? hfirst)
      · exact inner
      · exact hall t (List.mem_of_getLast? hlast)
    next => exact gives_stuck

theorem gives_condition : (condition rules).Gives s (Whole s) := by
  refine (gives_token "(").bind fun first hfirst => (hrules _).bind fun inner hinner => ?_
  refine (gives_token ")").bind fun last hlast => gives_plainNode rfl ?_
  simp [hfirst.good, hinner.good, hlast.good]

omit hrules in
theorem nameAt_bracket (rest : List Char) : nameAt ('[' :: rest) = "" := by
  have plain : isNamePart '[' = false := by decide
  simp [nameAt, nameLength, nameTailLength, plain, isDigit, codeEscapeLength?]

/-- A property name that starts like a name is a leaf. -/
theorem propertyName_givesAt {c : Cursor} (hc : c.Within s) :
    (propertyName rules).GivesAt s c fun t =>
      t.Whole s ∧ (nameAt (c.skipTrivia false).rest ≠ "" → t.children = []) := by
  refine Looks.givesAt rfl ?_
  generalize (c.skipTrivia false).rest = text
  have leaf {type : String} {r : Reader ParseTree} (h : r.Gives s (LeafOf s type)) :
      r.Gives s fun t => t.Whole s ∧ (nameAt text ≠ "" → t.children = []) :=
    h.mono fun t ht => ⟨ht.whole, fun _ => ht.children⟩
  refine (?_ : Reader.Gives s _ _) c hc
  cases text with
  | nil => exact gives_stuck
  | cons d rest =>
    refine gives_ite (fun bracket => ?_) fun _ => ?_
    · obtain rfl : d = '[' := eq_of_beq bracket
      refine (gives_token "[").bind fun first hfirst => (hrules _).bind fun inner hinner => ?_
      refine (gives_token "]").bind fun last hlast => (gives_plainNode rfl ?_).mono fun t ht => ?_
      · simp [hfirst.good, hinner.good, hlast.good]
      · exact ⟨ht, fun name => absurd (nameAt_bracket rest) name⟩
    refine gives_ite (fun _ => leaf (gives_lexeme rfl)) fun _ => ?_
    refine gives_ite (fun _ => leaf gives_privateName) fun _ => ?_
    exact gives_ite (fun _ => leaf gives_number) fun _ => leaf (gives_word rfl)

theorem gives_propertyName : (propertyName rules).Gives s (Whole s) := by
  intro c hc t c' h
  obtain ⟨whole, within⟩ := propertyName_givesAt hrules hc t c' h
  exact ⟨whole.1, within⟩

omit hrules in
/-- What stands in front of a method's name: tokens and decorators. -/
def MethodLead (s : List Char) (lead : List ParseTree) : Prop :=
  ∀ t ∈ lead, t.IsToken ∨ t.Whole s ∧ t.field = some "decorator"

omit hrules in
theorem MethodLead.beside {lead : List ParseTree} (h : MethodLead s lead) {fields : List String}
    (hf : "decorator" ∉ fields) : ∀ t ∈ lead, Beside ["decorator"] fields t := by
  intro t ht
  rcases h t ht with token | ⟨-, field⟩
  · exact token.beside
  · refine ⟨fun _ => by simp [fillsAny, field], fun f mem same => ?_⟩
    rw [field] at same
    cases same
    exact hf mem

theorem gives_methodTail {lead : List ParseTree} {name : ParseTree} (hlead : MethodLead s lead)
    (hname : name.Whole s) : (methodTail rules lead name).Gives s (Whole s) := by
  refine (gives_formalParameters hrules).bind fun params ⟨hparams, list⟩ => ?_
  refine (hrules _).bind fun body hbody => ?_
  have laid := ((((laid_nil ["decorator"]).part "body" hbody.kept (by decide)).part "parameters" hparams.kept
    (by decide)).part "name" hname.kept (by decide)).besideAll (hlead.beside (by decide))
  have skip {f : String} (hf : f ≠ "decorator") {rest : List ParseTree} :
      inField? f (lead ++ rest) = inField? f rest := by
    have apart : "decorator" ∉ [f] := by simpa using hf.symm
    exact inField?_append_of_ne fun t ht => (hlead.beside apart t ht).2 f (by simp)
  refine gives_construct .method rfl (by decide) (fun start stop => ⟨laid.consistsOf (by simp), ?_, ?_⟩) ?_
  · simp [skip, list]
  · simp [skip]
  · simp only [List.mem_append, List.mem_cons, List.not_mem_nil, or_false]
    rintro t (mem | rfl | rfl | rfl)
    · rcases hlead t mem with token | ⟨whole, -⟩
      · exact token.good
      · exact whole.good
    · exact (hname.inField _).good
    · exact (hparams.inField _).good
    · exact (hbody.inField _).good

omit hrules in
theorem gives_modifier (x : String) (beforeStar : Bool) :
    (modifier? x beforeStar).Gives s fun found => ∀ t ∈ found, t.IsToken := by
  refine looks_upcomingName.bind fun word => gives_ite (fun _ => ?_) fun _ => gives_pure (by simp)
  refine (looks_ahead false).bind fun c => gives_ite (fun _ => ?_) fun _ => gives_pure (by simp)
  refine (gives_keyword x).bind fun t ht => gives_pure ?_
  simpa using ht

omit hrules in
theorem gives_methodModifiers : methodModifiers.Gives s fun all => ∀ t ∈ all, t.IsToken := by
  refine (gives_modifier "static" true).bind fun static hstatic => ?_
  refine (gives_modifier "async" true).bind fun isAsync hasync => ?_
  refine (gives_modifier "get" false).bind fun getter hgetter => ?_
  refine Gives.join (fun found => ∀ t ∈ found, t.IsToken) (gives_pure (by simp))
    (gives_modifier "set" false).bind fun setter hsetter => ?_
  refine Gives.join (fun found => ∀ t ∈ found, t.IsToken) (gives_pure (by simp))
    (gives_optionalToken "*").bind fun star hstar => gives_pure ?_
  simp only [List.mem_append, Option.mem_toList]
  rintro t ((((mem | mem) | mem) | mem) | mem)
  · exact hstatic t mem
  · exact hasync t mem
  · exact hgetter t mem
  · exact hsetter t mem
  · exact hstar t mem

theorem gives_objectMember : (objectMember rules).Gives s (Whole s) := by
  refine (looks_sees "...").bind fun spread => gives_ite (fun _ => gives_expressionOrSpread hrules) fun _ => ?_
  refine gives_methodModifiers.bind fun modifiers hmodifiers c hc => Looks.givesAt rfl ?_
  refine (propertyName_givesAt hrules hc).bind fun name ⟨hname, leaf⟩ => ?_
  generalize nameAt (c.skipTrivia false).rest = plainName at leaf ⊢
  refine (looks_sees "(").bind fun isMethod => gives_ite (fun _ => ?_) fun _ => ?_
  · exact gives_methodTail hrules (fun t ht => .inl (hmodifiers t ht)) hname
  refine (looks_sees ":").bind fun isPair => gives_ite (fun _ => ?_) fun _ => ?_
  · refine (gives_token ":").bind fun colon hcolon => (hrules _).bind fun value hvalue => ?_
    exact gives_plainNode rfl (by simp [hname.good, hcolon.good, hvalue.good])
  refine gives_ite (fun _ => gives_stuck) fun plain => ?_
  have children : name.children = [] := leaf (by rintro rfl; simp at plain)
  refine looks_upcomingOperator.bind fun operator => gives_ite (fun _ => ?_) fun _ => ?_
  · refine (gives_token "=").bind fun equals hequals => (hrules _).bind fun value hvalue => ?_
    have left := whole_of_leaf (s := s)
      (t := { name with type := "shorthand_property_identifier_pattern" }) hname.named rfl children
    exact gives_plainNode rfl (by simp [left.good, hequals.good, hvalue.good])
  · exact gives_pure (whole_of_leaf hname.named rfl children)

theorem gives_objectLiteral : (objectLiteral rules).Gives s (Whole s) :=
  (gives_delimited (gives_objectMember hrules)).bind fun _ hall => gives_plainNode rfl hall

theorem gives_templateParts : (templateParts rules).Gives s fun all => ∀ t ∈ all, t.Good s := by
  refine Gives.bind (R := fun all : List ParseTree => ∀ t ∈ all, t.Good s) (gives_iterate ?_ (by simp)) ?_
  · intro found hfound
    refine gives_here.bind fun c hc => ?_
    split
    · exact gives_stuck
    · exact gives_pure (by simp)
    · refine (gives_moveTo (hc.advance 2)).bind fun _ _ => (hrules _).bind fun inner hinner => ?_
      refine (gives_token _).bind fun last hlast => ?_
      refine (gives_plainNode rfl ?_).bind fun part hpart => gives_pure ?_
      · exact List.forall_mem_cons.mpr ⟨(token_leafAt _ 2 c).good, by simp [hinner.good, hlast.good]⟩
      · simpa using ⟨hpart.good, hfound⟩
    · refine Gives.bind (R := fun _ => True) (gives_orStuck fun _ _ => trivial) fun n _ => ?_
      refine (gives_moveTo (hc.advance n)).bind fun _ _ => gives_pure ?_
      have part : (leafAt "escape_sequence" true n c).1.Good s := good_of_not_kept rfl rfl
      simpa using ⟨part, hfound⟩
    · refine (gives_moveTo (hc.advance _)).bind fun _ _ => gives_pure ?_
      have part : (leafAt "string_fragment" true (templateCharsLength c.rest) c).1.LeafOf s "string_fragment" :=
        leafOf_leafAt rfl _ c
      simpa using ⟨part.whole.good, hfound⟩
  · intro found hfound
    exact gives_pure (by simpa using hfound)

theorem gives_templateLiteral :
    (templateLiteral rules).Gives s fun t => t.Whole s ∧ t.type = "template_string" := by
  refine (gives_token _).bind fun first hfirst => (gives_templateParts hrules).bind fun parts hparts => ?_
  refine (gives_token _).bind fun last hlast => gives_plain rfl ?_
  simp only [List.mem_append, List.mem_cons, List.not_mem_nil, or_false]
  rintro t ((rfl | mem) | rfl)
  · exact hfirst.good
  · exact hparts t mem
  · exact hlast.good

omit hrules in
theorem gives_memberName : memberName.Gives s (Whole s) := by
  refine (looks_sees "#").bind fun isPrivate => gives_ite (fun _ => ?_) fun _ => ?_
  · exact gives_privateName.mono fun _ h => h.whole
  · exact (gives_word rfl).mono fun _ h => h.whole

theorem gives_nameOrArrow (context : Context) : (nameOrArrow rules context).Gives s (Whole s) := by
  refine (gives_name rfl).bind fun n hn => (looks_sees "=>").bind fun arrow => ?_
  refine gives_ite (fun _ => ?_) fun _ => gives_pure hn.whole
  exact gives_arrowTail hrules context ⟨[], n, by simp, hn.whole, .inl rfl⟩

omit hrules in
/-- A step that takes the node a reader builds. -/
theorem gives_some {r : Reader ParseTree} (h : r.Gives s (Whole s)) :
    (do return some (← r)).Gives s fun next : Option ParseTree => ∀ t ∈ next, t.Whole s :=
  h.bind fun t ht => gives_pure (by simpa using ht)

omit hrules in
theorem isMark_of_token {t : ParseTree} (h : t.IsToken) : ∀ m ∈ [t], IsMark s m := by
  intro m hm
  obtain rfl := List.mem_singleton.mp hm
  exact .inl h

theorem gives_postfixStep (context : Context) (marks : PostfixMarks) {left : ParseTree} (hleft : left.Whole s) :
    (postfixStep rules context marks left).Gives s fun next => ∀ t ∈ next, t.Whole s := by
  have none : (pure none : Reader (Option ParseTree)).Gives s fun next => ∀ t ∈ next, t.Whole s :=
    gives_pure (by simp)
  refine (looks_canEnd true).bind fun ends => gives_ite (fun _ => none) fun _ => ?_
  refine looks_upcoming.bind fun text => ?_
  split
  · exact none
  · refine (gives_token ".").bind fun dot hdot => gives_memberName.bind fun property hproperty => ?_
    exact gives_some (gives_access [dot] [] hleft (isMark_of_token hdot) hproperty (by simp) (.inl rfl))
  · refine gives_ite (fun _ => none) fun _ => (gives_token "?.").bind fun mark hmark => ?_
    have chain := isMark_chain (s := s) hmark
    refine (looks_sees "(").bind fun isCall => gives_ite (fun _ => ?_) fun _ => ?_
    · refine (gives_argumentList hrules).bind fun args ⟨hargs, type⟩ => ?_
      exact gives_some (gives_call [_] hleft (by simpa using chain) hargs (.inl type))
    refine (looks_sees "[").bind fun isIndex => gives_ite (fun _ => ?_) fun _ => ?_
    · refine (gives_token "[").bind fun first hfirst => (hrules _).bind fun index hindex => ?_
      refine (gives_token "]").bind fun last hlast => ?_
      exact gives_some (gives_access [_, first] [last] hleft
        (List.forall_mem_cons.mpr ⟨chain, isMark_of_token hfirst⟩) hindex (by simpa using hlast) (.inr rfl))
    · refine gives_memberName.bind fun property hproperty => ?_
      exact gives_some (gives_access [_] [] hleft (by simpa using chain) hproperty (by simp) (.inl rfl))
  · refine (gives_token "[").bind fun first hfirst => (hrules _).bind fun index hindex => ?_
    refine (gives_token "]").bind fun last hlast => ?_
    exact gives_some (gives_access [first] [last] hleft (isMark_of_token hfirst) hindex (by simpa using hlast)
      (.inr rfl))
  · refine gives_ite (fun _ => ?_) fun _ => none
    refine (gives_argumentList hrules).bind fun args ⟨hargs, type⟩ => ?_
    exact gives_some (gives_call [] hleft (by simp) hargs (.inl type))
  · refine gives_ite (fun _ => none) fun _ => ?_
    refine (gives_templateLiteral hrules).bind fun template ⟨htemplate, type⟩ => ?_
    exact gives_some (gives_call [] hleft (by simp) htemplate (.inr type))
  · refine gives_ite (fun _ => (gives_token "++").bind fun mark hmark => ?_) fun _ => none
    exact gives_some (gives_plainNode rfl (by simp [hleft.good, hmark.good]))
  · refine gives_ite (fun _ => (gives_token "--").bind fun mark hmark => ?_) fun _ => none
    exact gives_some (gives_plainNode rfl (by simp [hleft.good, hmark.good]))
  · exact none

theorem gives_postfixTail (context : Context) (marks : PostfixMarks) {left : ParseTree} (hleft : left.Whole s) :
    (postfixTail rules context marks left).Gives s (Whole s) :=
  gives_iterate (fun _ h => gives_postfixStep hrules context marks h) hleft

theorem gives_newExpression (context : Context) : (newExpression rules context).Gives s (Whole s) := by
  refine (gives_keyword "new").bind fun new hnew => (looks_sees ".").bind fun isMeta => ?_
  refine gives_ite (fun _ => ?_) fun _ => ?_
  · refine (gives_token ".").bind fun dot hdot => (gives_keyword "target").bind fun target htarget => ?_
    exact gives_plainNode rfl (by simp [hnew.good, hdot.good, htarget.good])
  · refine (hrules _).bind fun maker hmaker => (looks_sees "(").bind fun called => ?_
    refine gives_ite (fun _ => ?_) fun _ => gives_plainNode rfl (by simp [hnew.good, hmaker.good])
    refine (gives_argumentList hrules).bind fun args ⟨hargs, _⟩ => ?_
    exact gives_plainNode rfl (by simp [hnew.good, hmaker.good, hargs.good])

theorem gives_assignmentTail (context : Context) {left : ParseTree} (hleft : left.Whole s) :
    (assignmentTail rules context left).Gives s (Whole s) := by
  refine looks_upcomingOperator.bind fun operator => gives_ite (fun _ => ?_) fun _ => ?_
  · have target : (orStuck (target? false left)).Gives s (Whole s) :=
      gives_orStuck fun _ h => target?_whole hleft h
    refine Gives.join (Whole s) target (fun rest => (gives_pure hleft).bind rest) fun target htarget => ?_
    refine (gives_token "=").bind fun equals hequals => (hrules _).bind fun right hright => ?_
    exact gives_assignment rfl htarget hequals.good hequals.beside hright
  · refine gives_ite (fun _ => ?_) fun _ => gives_pure hleft
    refine (gives_token operator).bind fun mark hmark => (hrules _).bind fun right hright => ?_
    exact gives_assignment rfl hleft ((good_inField _).mpr hmark.good) (hmark.beside_inField (by decide)) hright

theorem gives_infixStep (context : Context) (level : Nat) {left : ParseTree} (hleft : left.Whole s) :
    (infixStep rules context level left).Gives s fun next => ∀ t ∈ next, t.Whole s := by
  have none : (pure none : Reader (Option ParseTree)).Gives s fun next => ∀ t ∈ next, t.Whole s :=
    gives_pure (by simp)
  refine (looks_canEnd true).bind fun ends => gives_ite (fun _ => none) fun _ => ?_
  refine looks_upcomingOperator.bind fun operator => gives_ite (fun _ => ?_) fun _ => ?_
  · refine gives_ite (fun _ => none) fun _ => (gives_token "?").bind fun mark hmark => ?_
    refine (hrules _).bind fun consequence hconsequence => (gives_token ":").bind fun colon hcolon => ?_
    refine (hrules _).bind fun alternative halternative => gives_some (gives_plainNode rfl ?_)
    simp [hleft.good, hmark.good, hconsequence.good, hcolon.good, halternative.good]
  refine gives_ite (fun _ => none) fun _ => ?_
  split
  · exact none
  · refine gives_ite (fun _ => none) fun _ => (gives_token operator).bind fun mark hmark => ?_
    refine (hrules _).bind fun right hright => gives_some (gives_plainNode rfl ?_)
    simp [hleft.good, hmark.good, hright.good]

theorem gives_infixTail (context : Context) (level : Nat) {left : ParseTree} (hleft : left.Whole s) :
    (infixTail rules context level left).Gives s (Whole s) :=
  gives_iterate (fun _ h => gives_infixStep hrules context level h) hleft

theorem gives_unary (context : Context) {operator : Reader ParseTree} (hoperator : operator.Gives s IsToken) :
    (unary rules context operator).Gives s (Whole s) := by
  refine hoperator.bind fun mark hmark => (hrules _).bind fun argument hargument => ?_
  exact gives_plainNode rfl (by simp [hmark.good, hargument.good])

theorem gives_prefixUpdate (context : Context) (operator : String) :
    (prefixUpdate rules context operator).Gives s (Whole s) := by
  refine (gives_token operator).bind fun mark hmark => (hrules _).bind fun argument hargument => ?_
  exact gives_plainNode rfl (by simp [hmark.good, hargument.good])

theorem gives_awaitExpression (context : Context) : (awaitExpression rules context).Gives s (Whole s) := by
  refine (gives_keyword "await").bind fun mark hmark => (hrules _).bind fun argument hargument => ?_
  exact gives_plainNode rfl (by simp [hmark.good, hargument.good])

theorem gives_yieldExpression (context : Context) : (yieldExpression rules context).Gives s (Whole s) := by
  refine (gives_keyword "yield").bind fun mark hmark => (looks_canEnd true).bind fun ends => ?_
  have alone : (branch "yield_expression" [mark]).Gives s (Whole s) :=
    gives_plainNode rfl (by simpa using hmark.good)
  refine gives_ite (fun _ => alone) fun _ => (looks_sees "*").bind fun isStar => gives_ite (fun _ => ?_) fun _ => ?_
  · refine (gives_token "*").bind fun star hstar => (hrules _).bind fun argument hargument => ?_
    exact gives_plainNode rfl (by simp [hmark.good, hstar.good, hargument.good])
  · refine looks_upcoming.bind fun text => gives_ite (fun _ => ?_) fun _ => alone
    exact (hrules _).bind fun argument hargument => gives_plainNode rfl (by simp [hmark.good, hargument.good])

theorem gives_expressionsOf (context : Context) : (expressionsOf rules context).Gives s (Whole s) := by
  refine (hrules _).bind fun first hfirst => ?_
  have item : (do
      let comma ← token ","
      return [comma, ← rules (.expression context)]).Gives s fun all : List ParseTree => ∀ t ∈ all, t.Good s := by
    refine (gives_token ",").bind fun comma hcomma => (hrules _).bind fun next hnext => gives_pure ?_
    simp [hcomma.good, hnext.good]
  refine (gives_repeatWhile (looks_sees ",") item).bind fun more hmore => ?_
  refine gives_ite (fun _ => gives_pure hfirst) fun _ => gives_plainNode rfl ?_
  simp only [List.mem_cons, List.mem_flatten]
  rintro t (rfl | ⟨all, mem, ht⟩)
  · exact hfirst.good
  · exact hmore all mem t ht

end

end ScriptAudit.JavaScript
