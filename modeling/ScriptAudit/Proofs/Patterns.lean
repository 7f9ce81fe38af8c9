import ScriptAudit.Proofs.ReadTrees

namespace ScriptAudit

namespace ParseTree

variable {s : List Char}

/-- A pattern is as good as the expression it stands for. -/
structure StandsFor (s : List Char) (t pattern : ParseTree) : Prop where
  good : pattern.Good s
  named : pattern.named = t.named
  skipped : skippedTypes.contains pattern.type = false

theorem StandsFor.whole {t pattern : ParseTree} (h : StandsFor s t pattern) (ht : t.Whole s) :
    pattern.Whole s := by
  refine ⟨?_, h.good⟩
  simp only [isKept, h.named, ht.named, isSkipped, h.skipped, Bool.not_false, Bool.and_self]

end ParseTree

namespace JavaScript

open ParseTree

variable {s : List Char} {t t' : ParseTree} {all all' : List ParseTree}

/-- What is known of the parts of an expression that is turned into a pattern. -/
def PartsStand (s : List Char) (all : List ParseTree) : Prop :=
  ∀ t ∈ all, t.Good s ∧ (∀ d t', target? d t = some t' → StandsFor s t t') ∧
    ∀ t', propertyTarget? t = some t' → StandsFor s t t'

/-- Elements and members are turned one after the other; tokens between them stay. -/
theorem mapM_named_good {turn : ParseTree → Option ParseTree}
    (each : ∀ t ∈ all, t.Good s ∧ ∀ t', turn t = some t' → t'.Good s)
    (h : (all.mapM fun t => if t.named then turn t else some t) = some all') : ∀ t ∈ all', t.Good s := by
  induction all generalizing all' with
  | nil =>
    cases h
    simp
  | cons t rest ih =>
    obtain ⟨good, turned⟩ := each t List.mem_cons_self
    rw [List.mapM_cons] at h
    obtain ⟨first, hfirst, h⟩ := Option.bind_eq_some_iff.mp h
    obtain ⟨others, hothers, h⟩ := Option.bind_eq_some_iff.mp h
    cases h
    refine List.forall_mem_cons.mpr ⟨?_, ih (fun u hu => each u (List.mem_cons_of_mem t hu)) hothers⟩
    split at hfirst
    · exact turned first hfirst
    · cases hfirst
      exact good

theorem elementTargets?_eq (all : List ParseTree) :
    elementTargets? all = all.mapM fun t => if t.named then target? true t else some t := by
  induction all with
  | nil => rw [elementTargets?]; rfl
  | cons t rest ih =>
    rw [elementTargets?, ih, List.mapM_cons]
    split <;> rfl

theorem propertyTargets?_eq (all : List ParseTree) :
    propertyTargets? all = all.mapM fun t => if t.named then propertyTarget? t else some t := by
  induction all with
  | nil => rw [propertyTargets?]; rfl
  | cons t rest ih =>
    rw [propertyTargets?, ih, List.mapM_cons]
    split <;> rfl

theorem elementTargets?_good (parts : PartsStand s all) (h : elementTargets? all = some all') :
    ∀ t ∈ all', t.Good s := by
  rw [elementTargets?_eq] at h
  refine mapM_named_good (fun t ht => ?_) h
  obtain ⟨good, target, -⟩ := parts t ht
  exact ⟨good, fun t' ht' => (target true t' ht').good⟩

theorem propertyTargets?_good (parts : PartsStand s all) (h : propertyTargets? all = some all') :
    ∀ t ∈ all', t.Good s := by
  rw [propertyTargets?_eq] at h
  refine mapM_named_good (fun t ht => ?_) h
  obtain ⟨good, -, target⟩ := parts t ht
  exact ⟨good, fun t' ht' => (target t' ht').good⟩

theorem restTarget?_good (parts : PartsStand s all) (h : restTarget? all = some all') :
    ∀ t ∈ all', t.Good s := by
  unfold restTarget? at h
  split at h
  next dots inner =>
    obtain ⟨t', ht, rfl⟩ := Option.map_eq_some_iff.mp h
    simpa using ⟨(parts dots (by simp)).1, ((parts inner (by simp)).2.1 false t' ht).good⟩
  next => cases h

theorem pairTarget?_good (parts : PartsStand s all) (h : pairTarget? all = some all') :
    ∀ t ∈ all', t.Good s := by
  unfold pairTarget? at h
  split at h
  next key colon value =>
    obtain ⟨t', ht, rfl⟩ := Option.map_eq_some_iff.mp h
    have target := (parts value (by simp)).2.1 true t' ht
    simpa using ⟨(parts key (by simp)).1, (parts colon (by simp)).1, target.good⟩
  next => cases h

theorem standsFor_plain {pattern : ParseTree} (plain : isPlainType pattern.type) (named : pattern.named = t.named)
    (leaf : t.named = false → pattern.children = []) (below : ∀ c ∈ pattern.children, c.Good s) :
    StandsFor s t pattern := by
  refine ⟨?_, named, ?_⟩
  · cases h : t.named with
    | true => exact (whole_of_plain (named.trans h) plain below).good
    | false => exact good_of_not_kept (by simp [isKept, named, h]) (leaf h)
  · simp only [isPlainType, Bool.and_eq_true, Bool.not_eq_true'] at plain
    exact plain.1.1

theorem target?_standsFor (parts : PartsStand s t.children) (good : t.Good s) {defaults : Bool}
    (h : target? defaults t = some t') : StandsFor s t t' := by
  obtain ⟨here, below⟩ := good_iff.mp good
  have leaf : t.named = false → t.children = [] := fun named => here.fits.leaf (by simp [isKept, named])
  cases t with
  | mk type start stop named missing hasError field children =>
    unfold target? at h
    split at h
    next plain =>
      cases h
      refine ⟨good, rfl, ?_⟩
      simp only [plainTargets, List.contains_iff_mem, List.mem_cons, List.not_mem_nil, or_false] at plain
      rcases plain with rfl | rfl | rfl | rfl | rfl | rfl <;> rfl
    split at h
    · obtain ⟨c, hc, rfl⟩ := Option.map_eq_some_iff.mp h
      refine standsFor_plain rfl rfl (fun unnamed => ?_) (propertyTargets?_good parts hc)
      obtain rfl : children = [] := leaf unnamed
      exact (Option.some.inj hc).symm
    split at h
    · obtain ⟨c, hc, rfl⟩ := Option.map_eq_some_iff.mp h
      refine standsFor_plain rfl rfl (fun unnamed => ?_) (elementTargets?_good parts hc)
      obtain rfl : children = [] := leaf unnamed
      exact (Option.some.inj hc).symm
    split at h
    · split at h
      · split at h
        · cases h
          exact standsFor_plain rfl rfl leaf below
        · cases h
      · cases h
    split at h
    · obtain ⟨c, hc, rfl⟩ := Option.map_eq_some_iff.mp h
      refine standsFor_plain rfl rfl (fun unnamed => ?_) (restTarget?_good parts hc)
      obtain rfl : children = [] := leaf unnamed
      cases hc
    · cases h

theorem propertyTarget?_standsFor (parts : PartsStand s t.children) (good : t.Good s)
    (h : propertyTarget? t = some t') : StandsFor s t t' := by
  have leaf : t.named = false → t.children = [] := fun named =>
    (good_iff.mp good).1.fits.leaf (by simp [isKept, named])
  cases t with
  | mk type start stop named missing hasError field children =>
    unfold propertyTarget? at h
    split at h
    next short =>
      cases h
      obtain rfl : type = "shorthand_property_identifier" := eq_of_beq short
      refine ⟨?_, rfl, rfl⟩
      cases named with
      | true => exact (Whole.retype ⟨rfl, good⟩ rfl rfl).good
      | false => exact good_of_not_kept rfl (leaf rfl)
    split at h
    next plain =>
      cases h
      refine ⟨good, rfl, ?_⟩
      rw [eq_of_beq plain]
      rfl
    split at h
    · obtain ⟨c, hc, rfl⟩ := Option.map_eq_some_iff.mp h
      refine standsFor_plain rfl rfl (fun unnamed => ?_) (pairTarget?_good parts hc)
      obtain rfl : children = [] := leaf unnamed
      cases hc
    split at h
    · obtain ⟨c, hc, rfl⟩ := Option.map_eq_some_iff.mp h
      refine standsFor_plain rfl rfl (fun unnamed => ?_) (restTarget?_good parts hc)
      obtain rfl : children = [] := leaf unnamed
      cases hc
    · cases h

/-- Every good expression is turned into a good pattern, with all its parts. -/
theorem partsStand (all : List ParseTree) (good : ∀ t ∈ all, t.Good s) : PartsStand s all := by
  have each (t : ParseTree) : t.Good s → (∀ d t', target? d t = some t' → StandsFor s t t') ∧
      ∀ t', propertyTarget? t = some t' → StandsFor s t t' := by
    induction t using ParseTree.induction with
    | step t ih =>
      intro good
      have below := (good_iff.mp good).2
      have parts : PartsStand s t.children := fun c hc => ⟨below c hc, ih c hc (below c hc)⟩
      exact ⟨fun _ _ => target?_standsFor parts good, fun _ => propertyTarget?_standsFor parts good⟩
  exact fun t ht => ⟨good t ht, each t (good t ht)⟩

theorem target?_whole {defaults : Bool} (whole : t.Whole s) (h : target? defaults t = some t') :
    t'.Whole s :=
  (target?_standsFor (partsStand _ (good_iff.mp whole.good).2) whole.good h).whole whole

end JavaScript

end ScriptAudit
