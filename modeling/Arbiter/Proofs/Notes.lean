import Arbiter.Evaluation

/-! What an evaluation leaves on its context.

Whatever is evaluated, be it a target, a rule, a node or a whole fold, starts from a context without
status and without obligations. What it then leaves depends on the depth of the context alone, so it
can be told as a value of its own, and `Context.after` puts it back on a context. -/

namespace Arbiter

/-- Status, missing attributes and obligations, and what the attribute finder was asked for. -/
structure Notes where
  codes : List StatusCode := []
  missing : List MissingAttribute := []
  obligations : List Obligation := []
  lookups : List Designator := []
  deriving DecidableEq

/-- The same, but after some lookups. -/
def Notes.following (ds : List Designator) (n : Notes) : Notes := { n with lookups := ds ++ n.lookups }

namespace Context

/-- A context of the same depth on which nothing has happened yet. -/
def fresh (ctx : Context) : Context :=
  { maxReferenceDepth := ctx.maxReferenceDepth, referenceDepth := ctx.referenceDepth }

/-- The context once an evaluation has left its notes on it. Lookups add up, all else is replaced. -/
def after (ctx : Context) (n : Notes) : Context :=
  { ctx with
    statusCode := n.codes.headD .ok
    statusCodes := n.codes
    missing := n.missing
    obligations := n.obligations
    lookups := ctx.lookups ++ n.lookups }

section

variable (ctx : Context) (n n' : Notes) (b b' : Bool)

@[simp] theorem after_after : (ctx.after n).after n' = ctx.after (n'.following n.lookups) := by
  simp [after, Notes.following]

@[simp] theorem setTargetMatched_after :
    (ctx.after n).setTargetMatched b = (ctx.setTargetMatched b).after n := rfl

@[simp] theorem setTargetMatched_twice :
    (ctx.setTargetMatched b).setTargetMatched b' = ctx.setTargetMatched b' := rfl

@[simp] theorem obligations_after : (ctx.after n).obligations = n.obligations := rfl

@[simp] theorem targetMatched_after : (ctx.after n).targetMatched = ctx.targetMatched := rfl

@[simp] theorem targetMatched_setTargetMatched : (ctx.setTargetMatched b).targetMatched = b := rfl

@[simp] theorem clearObligations_after :
    (ctx.after n).clearObligations = ctx.after { n with obligations := [] } := rfl

@[simp] theorem addObligations_after (os : List Obligation) (e : Effect) :
    (ctx.after n).addObligations os e =
      ctx.after { n with obligations := n.obligations ++ obligationsFor e os } := rfl

end

theorem enterReference?_eq_some {ctx inner : Context} (h : ctx.enterReference? = some inner) :
    ctx.referenceDepth < ctx.maxReferenceDepth ∧
      inner = { ctx with referenceDepth := ctx.referenceDepth + 1 } := by
  unfold enterReference? at h
  split at h
  · exact ⟨‹_›, (Option.some.inj h).symm⟩
  · simp at h

theorem fresh_of_enterReference? {ctx inner : Context} (h : ctx.fresh.enterReference? = some inner) :
    inner.fresh = inner := by
  obtain ⟨-, rfl⟩ := enterReference?_eq_some h
  rfl

theorem resetStatus_eq_after {ctx : Context} (h : ctx.obligations = []) :
    ctx.resetStatus = ctx.after {} := by
  simp [resetStatus, after, ← h]

theorem resetStatus_clearObligations (ctx : Context) :
    ctx.resetStatus.clearObligations = ctx.after {} := by
  simp [resetStatus, clearObligations, after]

theorem clearObligations_resetStatus (ctx : Context) :
    ctx.clearObligations.resetStatus = ctx.after {} := by
  simp [resetStatus, clearObligations, after]

/-- Lookups alone leave no status, so a context they were made on is as good as a new one. -/
theorem after_lookups (ctx : Context) (ds : List Designator) :
    ctx.after { lookups := ds } = (ctx.after { lookups := ds }).after {} := by
  simp [Notes.following]

theorem report_after (ctx : Context) (n : Notes) {c : StatusCode} (hn : .ok ∉ n.codes) (hc : c ≠ .ok) :
    (ctx.after n).report c = ctx.after { n with codes := n.codes ++ [c] } := by
  have hk : c.isOk = false := by cases c <;> simp_all [StatusCode.isOk]
  rcases n with ⟨codes, ms, os, ds⟩
  cases codes with
  | nil => simp [report, after, StatusCode.isOk]
  | cons b bs =>
    have hb : b.isOk = false := by cases b <;> simp_all [StatusCode.isOk]
    simp [report, after, hk, hb]

theorem reportAll_after (ctx : Context) (n : Notes) {cs : List StatusCode} (hn : .ok ∉ n.codes)
    (hc : .ok ∉ cs) : (ctx.after n).reportAll cs = ctx.after { n with codes := n.codes ++ cs } := by
  induction cs generalizing n with
  | nil => simp [reportAll]
  | cons c cs ih =>
    have hcc : c ≠ .ok := by rintro rfl; simp at hc
    have hcs : .ok ∉ cs := fun h => hc (List.mem_cons_of_mem c h)
    have hnc : .ok ∉ n.codes ++ [c] := by simp [hn, hcc.symm]
    have step := ih { n with codes := n.codes ++ [c] } hnc hcs
    rw [reportAll, List.foldl_cons, report_after ctx n hn hcc]
    simpa [reportAll] using step

end Context

/-- How a target or condition turns out and what it notes: a fault is a status code, and an attribute
that it missed is told. -/
def Matcher.outcome (m : Matcher) (s : Source) (c : Condition) : MatchResult × Notes :=
  match m with
  | byValue =>
    match (c.evaluate s).result with
    | .ok b => (.ofBool b, { lookups := (c.evaluate s).lookups })
    | .error f =>
      (.indeterminate,
        { codes := [f.error.status]
          missing := match f.error with
            | .missingAttribute d => [d]
            | _ => []
          lookups := (c.evaluate s).lookups })
  | always r => (r, {})

namespace Matching

def targetOutcome (m : Matching) : Option Condition → MatchResult × Notes
  | none => (.matched, {})
  | some c => m.target.outcome m.source c

def conditionOutcome (m : Matching) : Option Condition → MatchResult × Notes
  | none => (.matched, {})
  | some c => m.condition.outcome m.source c

end Matching

/-- What a condition reports on a context that holds nothing yet is what it notes. -/
theorem Matcher.run_after (m : Matcher) (s : Source) (c : Condition) (ctx : Context) :
    m.run s c (ctx.after {}) = ((m.outcome s c).1, ctx.after (m.outcome s c).2) := by
  cases m with
  | always r => rfl
  | byValue =>
    have hl : { ctx.after {} with lookups := (ctx.after {}).lookups ++ (c.evaluate s).lookups } =
        ctx.after { lookups := (c.evaluate s).lookups } := by simp [Context.after]
    simp only [run, outcome, Context.record, hl]
    cases h : (c.evaluate s).result with
    | ok b => rfl
    | error f =>
      have hr := ctx.report_after { lookups := (c.evaluate s).lookups } (by simp)
        f.error.status_ne_ok
      simp only [hr]
      cases f.error <;> simp [Context.after, Context.addMissing, addNew]

theorem Matcher.outcome_obligations (m : Matcher) (s : Source) (c : Condition) :
    (m.outcome s c).2.obligations = [] := by
  cases m with
  | always r => rfl
  | byValue =>
    simp only [outcome]
    split <;> rfl

theorem Matcher.outcome_codes (m : Matcher) (s : Source) (c : Condition) :
    .ok ∉ (m.outcome s c).2.codes := by
  cases m with
  | always r => simp [outcome]
  | byValue =>
    simp only [outcome]
    split
    · simp
    · rename_i f _
      simpa using f.error.status_ne_ok.symm

/-- A condition with a truth value notes lookups and nothing else. -/
theorem Matcher.outcome_quiet (m : Matcher) (s : Source) (c : Condition)
    (h : (m.outcome s c).1 ≠ .indeterminate) :
    (m.outcome s c).2 = { lookups := (m.outcome s c).2.lookups } := by
  cases m with
  | always r => rfl
  | byValue =>
    simp only [outcome] at h ⊢
    split
    · rfl
    · rename_i f hf
      simp [hf] at h

end Arbiter
