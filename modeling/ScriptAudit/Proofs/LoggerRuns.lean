import Mathlib.Data.List.Induction
import ScriptAudit.Command.Run
import ScriptAudit.Proofs.TextPlaces
import ScriptAudit.Proofs.WrappedLines

namespace ScriptAudit

/-- What a call sets up. -/
def LogCall.setup? : LogCall → Option (Bool × Console)
  | configure verbose console => some (verbose, console)
  | record _ _ => none

namespace Logger

/-- What the last setup among some calls was. -/
def lastSetup? (calls : List LogCall) : Option (Bool × Console) := (calls.filterMap LogCall.setup?).getLast?

/-! ### One setup -/

/-- The loop has dealt with some handlers and kept them; it takes out of the others those that print. -/
theorem foldl_detach (kept todo : List Handler) (others : ∀ h ∈ kept, ¬ h.isTerminal) :
    todo.foldl (fun left h => if h.isTerminal then left.erase h else left) (kept ++ todo) =
      kept ++ todo.filter (!·.isTerminal) := by
  induction todo generalizing kept with
  | nil => rfl
  | cons h todo ih =>
    rw [List.foldl_cons]
    by_cases printing : h.isTerminal
    · have absent : h ∉ kept := fun mem => others h mem printing
      rw [if_pos printing, List.erase_append_right _ absent, List.erase_cons_head, ih kept others,
        List.filter_cons_of_neg (by simpa using printing)]
    · have more : ∀ x ∈ kept ++ [h], ¬ x.isTerminal := by
        intro x mem
        rcases List.mem_append.mp mem with mem | mem
        · exact others x mem
        · rwa [List.mem_singleton.mp mem]
      rw [if_neg printing, List.append_cons, ih _ more, List.filter_cons_of_pos (by simpa using printing),
        ← List.append_cons]

theorem detachTerminals_eq (handlers : List Handler) :
    detachTerminals handlers = handlers.filter (!·.isTerminal) :=
  foldl_detach [] handlers (by simp)

/-- The handlers of a logger: some that do not print, then some that do. -/
def handlersOf (others : List Nat) (printing : List Console) : List Handler :=
  others.map .other ++ printing.map .terminal

theorem detachTerminals_handlersOf (others : List Nat) (printing : List Console) :
    detachTerminals (handlersOf others printing) = others.map .other := by
  have kept : (others.map Handler.other).filter (!·.isTerminal) = others.map .other := by
    simp [List.filter_eq_self, Handler.isTerminal]
  have gone : (printing.map Handler.terminal).filter (!·.isTerminal) = [] := by
    simp [List.filter_eq_nil_iff, Handler.isTerminal]
  rw [detachTerminals_eq, handlersOf, List.filter_append, kept, gone, List.append_nil]

/-! ### One record -/

theorem covers_nameBelow (below : List String) : covers (nameBelow below) := by
  cases below with
  | nil => rfl
  | cons first rest =>
    have start : (name ++ ".").toList <+: (nameBelow (first :: rest)).toList := by
      rw [nameBelow, String.toList_ofList, List.map_cons, Text.joinWith_cons_cons]
      exact ⟨_, rfl⟩
    rw [covers, Bool.or_eq_true, List.isPrefixOf_iff_prefix]
    exact .inr start

/-- A console gets each record that the level lets through, whatever is outside. -/
theorem prints_of_console (level : Level) (others : List Nat) (console : Console) (o : Outside) (below : List String)
    (r : Record) : prints ⟨level, false, handlersOf others [console]⟩ o (.record below r) =
      if level.rank ≤ r.level.rank then [.console console (r.lines console.width)] else [] := by
  have shown : (handlersOf others [console]).filterMap Handler.console? = [console] := by
    simp [handlersOf, List.filterMap_map, Function.comp_def, Handler.console?]
  have handlers : takers ⟨level, false, handlersOf others [console]⟩ o = handlersOf others [console] :=
    List.append_nil _
  rw [prints, emit, covers_nameBelow, handlers]
  simp only [Bool.true_and, decide_eq_true_eq]
  split
  · split
    next none => simp [handlersOf] at none
    next => rw [shown]; rfl
  · rfl

/-- Without a console a record is read only where nothing takes it. -/
theorem prints_of_no_console {l : Logger} {o : Outside} (silent : ∀ h ∈ l.takers o, ¬ h.isTerminal)
    (below : List String) (r : Record) : l.prints o (.record below r) =
      if l.takers o = [] ∧ l.level.rank ≤ r.level.rank ∧ o.standby.any (·.rank ≤ r.level.rank)
      then [.standby r.text] else [] := by
  have unseen : (l.takers o).filterMap Handler.console? = [] := by
    rw [List.filterMap_eq_nil_iff]
    intro h mem
    cases h with
    | terminal c => exact absurd rfl (silent _ mem)
    | other id => rfl
  rw [prints, emit, covers_nameBelow]
  by_cases enough : l.level.rank ≤ r.level.rank
  · rw [if_pos (by simp [enough])]
    split
    next none => simp [none, enough]
    next some => rw [unseen, if_neg fun h => some h.1]; rfl
  · rw [if_neg (by simp [enough]), if_neg fun h => enough h.2.1]

/-! ### Any run -/

/-- The logger is as the last setup left it, or else as it was at first, and its other handlers are still there. -/
inductive Follows (level : Level) (propagate : Bool) (others : List Nat) : Option (Bool × Console) → Logger → Prop
  | fresh : Follows level propagate others none ⟨level, propagate, handlersOf others []⟩
  | configured (verbose : Bool) (console : Console) :
      Follows level propagate others (some (verbose, console)) ⟨threshold verbose, false, handlersOf others [console]⟩

section Follows

variable {level : Level} {propagate : Bool} {others : List Nat} {l : Logger}

theorem Follows.next {setup : Option (Bool × Console)} (h : Follows level propagate others setup l) (call : LogCall) :
    Follows level propagate others (call.setup?.or setup) (l.next call) := by
  cases call with
  | record below r => exact h
  | configure verbose console =>
    have detached : detachTerminals l.handlers = others.map .other := by
      cases h with
      | fresh => exact detachTerminals_handlersOf others []
      | configured _ last => exact detachTerminals_handlersOf others [last]
    have same : l.configure verbose console = ⟨threshold verbose, false, handlersOf others [console]⟩ := by
      rw [Logger.configure, detached]
      rfl
    rw [Logger.next, same]
    exact .configured verbose console

theorem Follows.eq_configured {verbose : Bool} {console : Console}
    (h : Follows level propagate others (some (verbose, console)) l) :
    l = ⟨threshold verbose, false, handlersOf others [console]⟩ := by
  cases h
  rfl

theorem Follows.eq_fresh (h : Follows level propagate others none l) :
    l = ⟨level, propagate, handlersOf others []⟩ := by
  cases h
  rfl

end Follows

theorem lastSetup?_concat (calls : List LogCall) (call : LogCall) :
    lastSetup? (calls ++ [call]) = call.setup?.or (lastSetup? calls) := by
  rw [lastSetup?, List.filterMap_append]
  cases call with
  | configure verbose console => simp [LogCall.setup?]
  | record below r => simp [LogCall.setup?, lastSetup?]

theorem after_follows (others : List Nat) (level : Level) (propagate : Bool) (calls : List LogCall) :
    Follows level propagate others (lastSetup? calls) (after ⟨level, propagate, handlersOf others []⟩ calls) := by
  induction calls using List.reverseRecOn with
  | nil => exact .fresh
  | append_singleton calls call ih =>
    rw [lastSetup?_concat, after, List.foldl_append]
    exact ih.next call

theorem getElem?_outputs (l : Logger) (o : Outside) (calls : List LogCall) (i : Nat) :
    (l.outputs o calls)[i]? = calls[i]?.map ((l.after (calls.take i)).prints o) := by
  induction calls generalizing l i with
  | nil => rfl
  | cons call rest ih =>
    cases i with
    | zero => rfl
    | succ i => exact ih (l.next call) i

theorem length_outputs (l : Logger) (o : Outside) (calls : List LogCall) :
    (l.outputs o calls).length = calls.length := by
  induction calls generalizing l with
  | nil => rfl
  | cons call rest ih => simp [outputs, ih]

/-- On one console records come out one by one. -/
theorem outputs_records (level : Level) (others : List Nat) (console : Console) (o : Outside) (records : List Record) :
    (outputs ⟨level, false, handlersOf others [console]⟩ o (records.map (.record []))).flatten =
      (records.filter (level.rank ≤ ·.level.rank)).map fun r => .console console (r.lines console.width) := by
  induction records with
  | nil => rfl
  | cons r rest ih =>
    rw [List.map_cons, outputs, List.flatten_cons, next, ih, prints_of_console, List.filter_cons]
    by_cases enough : level.rank ≤ r.level.rank
    · simp [enough]
    · simp [enough]

end Logger

/-- A run prints each of its records that its level lets through once, on standard error. -/
theorem Command.Request.logged_eq (r : Command.Request) (records : List Record) : r.logged records =
    (records.filter ((Logger.threshold r.verbose).rank ≤ ·.level.rank)).map fun x =>
      .console Command.logConsole (x.lines Command.width) :=
  Logger.outputs_records (Logger.threshold r.verbose) [] Command.logConsole {} records

namespace Logger

open Terminal (ink isControl)

end Logger

end ScriptAudit
