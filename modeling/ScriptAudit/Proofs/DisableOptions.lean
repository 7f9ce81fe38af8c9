import ScriptAudit.Command.Request

namespace ScriptAudit.Command

/-- The words that disable rules, each by a switch of its own. -/
def disableOptions (ids : List String) : List String := ids.flatMap fun id => ["--disable", id]

/-- The request with more rules disabled. -/
def Request.disabling (ids : List String) (r : Request) : Request := { r with disabled := ids ++ r.disabled }

namespace Draft

def disabling (ids : List String) (d : Draft) : Draft := { d with request := d.request.disabling ids }

variable (ids : List String)

@[simp] theorem target_disabling (d : Draft) : (d.disabling ids).target = d.target := rfl

theorem setFlag_disabling (d : Draft) (s : Switch) :
    (d.disabling ids).setFlag s = (d.setFlag s).map (disabling ids) := by
  cases s <;> rfl

theorem setFlags_disabling (flags : List Switch) (d : Draft) :
    flags.foldlM setFlag (d.disabling ids) = (flags.foldlM setFlag d).map (disabling ids) := by
  induction flags generalizing d with
  | nil => rfl
  | cons s rest ih =>
    rw [List.foldlM_cons, List.foldlM_cons, setFlag_disabling]
    cases d.setFlag s with
    | error stop => rfl
    | ok next => exact ih next

theorem setValue_disabling (d : Draft) (s : Switch) (value : String) :
    (d.disabling ids).setValue s value = (d.setValue s value).map (disabling ids) := by
  simp only [setValue]
  by_cases bad : s.choices?.any (!·.contains value) = true
  · rw [if_pos bad, if_pos bad]
    rfl
  · rw [if_neg bad, if_neg bad]
    cases s with
    | disable => simp [Except.map, disabling, Request.disabling]
    | help | verbose | output | outputFile | config | noBanner => rfl

theorem setAll_disabling (d : Draft) (e : Expansion) (next : Option String) :
    (d.disabling ids).setAll e next = (d.setAll e next).map (disabling ids) := by
  have flags := setFlags_disabling ids e.flags d
  unfold setAll
  split
  · exact flags
  · rw [flags]
    cases e.flags.foldlM setFlag d <;> rfl
  · rw [flags]
    cases e.flags.foldlM setFlag d with
    | error stop => rfl
    | ok d => exact setValue_disabling ids d _ _
  · rw [flags]
    cases e.flags.foldlM setFlag d with
    | error stop => rfl
    | ok d => exact setValue_disabling ids d _ _
  · rfl

theorem read_disabling (words : List Word) (d : Draft) :
    read words (d.disabling ids) = (read words d).map (disabling ids) := by
  fun_induction read words d with
  | case1 d =>
    rw [read]
    rfl
  | case2 d text rest noTarget ih =>
    rw [read, target_disabling, noTarget]
    exact ih
  | case3 d text rest goal target ih =>
    rw [read, target_disabling, target]
    exact ih
  | case4 d rest text next noTarget ih =>
    rw [read, target_disabling, noTarget, next]
    exact ih
  | case5 d rest taken ih =>
    rw [read, target_disabling]
    split
    next noTarget next => exact (taken _ noTarget next).elim
    next => exact ih
  | case6 d fault rest =>
    rw [read]
    rfl
  | case7 d e rest ih =>
    rw [read, setAll_disabling]
    cases d.setAll e (Word.headText? rest) with
    | error stop => rfl
    | ok next => exact ih next

theorem finish_disabling (d : Draft) : (d.disabling ids).finish = d.finish.map (Request.disabling ids) := by
  obtain ⟨target, request, extras⟩ := d
  cases target <;> cases extras <;> rfl

end Draft

/-- The switch that disables a rule, with the value behind it. -/
def disableWords (ids : List String) : List Word :=
  ids.flatMap fun id => [.dashed (.ok ⟨[], .awaits .disable⟩), .plain id]

theorem Word.ofText_id {id : String} (h : id ∈ Catalog.ids) : id ≠ "--" ∧ ofText id = .ok (.plain id) := by
  have starts : ∀ id ∈ Catalog.ids, id ≠ "--" ∧ id.toList.head? ≠ some '-' := by decide
  obtain ⟨notSeparator, head⟩ := starts id h
  refine ⟨notSeparator, ?_⟩
  unfold ofText
  split <;> simp_all

theorem Word.ofTexts_disableOptions {ids : List String} (known : ∀ id ∈ ids, id ∈ Catalog.ids)
    (arguments : List String) :
    ofTexts (disableOptions ids ++ arguments) = (ofTexts arguments).map (disableWords ids ++ ·) := by
  have switch : ofText "--disable" = .ok (.dashed (.ok ⟨[], .awaits .disable⟩)) := rfl
  induction ids with
  | nil =>
    cases h : ofTexts arguments <;> simp [disableOptions, disableWords, Except.map, h]
  | cons id rest ih =>
    obtain ⟨notSeparator, plain⟩ := ofText_id (known id List.mem_cons_self)
    have words : disableOptions (id :: rest) ++ arguments =
        "--disable" :: id :: (disableOptions rest ++ arguments) := rfl
    rw [words, ofTexts, if_neg (by decide), switch, ofTexts, if_neg notSeparator, plain,
      ih fun id mem => known id (List.mem_cons_of_mem _ mem)]
    cases ofTexts arguments <;> rfl

theorem Draft.read_disableWords {ids : List String} (known : ∀ id ∈ ids, id ∈ Catalog.ids) (words : List Word)
    (d : Draft) : read (disableWords ids ++ words) d =
      read words { d with request := { d.request with disabled := d.request.disabled ++ ids } } := by
  induction ids generalizing d with
  | nil => simp [disableWords]
  | cons id rest ih =>
    have valid : Switch.choices? .disable = some Catalog.ids := rfl
    have choice : (Switch.choices? .disable).any (!·.contains id) = false := by
      simp [valid, known id List.mem_cons_self]
    have set : d.setAll ⟨[], .awaits .disable⟩ (some id) =
        .ok { d with request := { d.request with disabled := d.request.disabled ++ [id] } } := by
      simp only [setAll, List.foldlM_nil, setValue, choice]
      rfl
    have first : disableWords (id :: rest) ++ words =
        .dashed (.ok ⟨[], .awaits .disable⟩) :: .plain id :: (disableWords rest ++ words) := rfl
    have next : Word.headText? (.plain id :: (disableWords rest ++ words)) = some id := rfl
    rw [first, read, next, set]
    have tail := ih (fun id mem => known id (List.mem_cons_of_mem _ mem))
      { d with request := { d.request with disabled := d.request.disabled ++ [id] } }
    simp only [List.append_assoc, List.singleton_append] at tail
    exact tail

/-- Options in front that disable rules give the request of the other words with those rules disabled too. -/
theorem Request.ofArguments_disableOptions {ids : List String} (known : ∀ id ∈ ids, id ∈ Catalog.ids)
    (arguments : List String) :
    ofArguments (disableOptions ids ++ arguments) = (ofArguments arguments).map (disabling ids) := by
  unfold ofArguments
  rw [Word.ofTexts_disableOptions known]
  cases Word.ofTexts arguments with
  | error fault => rfl
  | ok words =>
    have start : { request := { target := "", disabled := [] ++ ids } } = Draft.disabling ids {} := by
      simp [Draft.disabling, disabling]
    simp only [Except.map]
    rw [Draft.read_disableWords known, start, Draft.read_disabling]
    cases Draft.read words {} with
    | error stop => rfl
    | ok d => exact Draft.finish_disabling ids d

end ScriptAudit.Command
