import Arbiter.Proofs.Relation

/-! The recursion of an evaluation, and why it ends.

A node leads to the nodes beneath it, and a reference to the node it names, which may be anywhere. So
the size of the tree alone bounds nothing, but each reference uses up one of those that may be open,
and whatever happens behind it, the context leaves with as many open as it came with. -/

namespace Arbiter

namespace Context

/-- One context, which has so many references open and may have at most `limit`. -/
def AtDepth (limit depth : Nat) (ctx ctx' : Context) : Prop :=
  ctx = ctx' ∧ ctx.maxReferenceDepth = limit ∧ ctx.referenceDepth = depth

theorem report_depth (ctx : Context) (c : StatusCode) :
    (ctx.report c).maxReferenceDepth = ctx.maxReferenceDepth ∧
      (ctx.report c).referenceDepth = ctx.referenceDepth := by
  unfold report
  split <;> exact ⟨rfl, rfl⟩

theorem finish_depth (h : Harvest) (d : Decision) (ctx : Context) :
    (h.finish d ctx).2.maxReferenceDepth = ctx.maxReferenceDepth ∧
      (h.finish d ctx).2.referenceDepth = ctx.referenceDepth := by
  cases d <;> exact ⟨rfl, rfl⟩

/-- Nothing but references touches the depth. -/
theorem stable_atDepth (limit depth : Nat) : Stable (AtDepth limit depth) Eq where
  statusCodes := by rintro _ _ ⟨rfl, -⟩; rfl
  missing := by rintro _ _ ⟨rfl, -⟩; rfl
  targetMatched := by rintro _ _ ⟨rfl, -⟩; rfl
  looked := by rintro _ _ ⟨rfl, h⟩ _; exact ⟨rfl, h⟩
  resetStatus := by rintro _ _ ⟨rfl, h⟩; exact ⟨rfl, h⟩
  report := by
    rintro ctx _ ⟨rfl, hl, hd⟩ c
    obtain ⟨hl', hd'⟩ := ctx.report_depth c
    exact ⟨rfl, hl'.trans hl, hd'.trans hd⟩
  setMissing := by rintro _ _ ⟨rfl, h⟩ _; exact ⟨rfl, h⟩
  setTargetMatched := by rintro _ _ ⟨rfl, h⟩ _; exact ⟨rfl, h⟩
  clearObligations := by rintro _ _ ⟨rfl, h⟩; exact ⟨rfl, h⟩
  addObligations := by rintro _ _ ⟨rfl, h⟩ _ _; exact ⟨rfl, h⟩
  nil := rfl
  add := by rintro _ _ _ _ ⟨rfl, -⟩ rfl _ _; rfl
  finish := by
    rintro ctx _ h _ ⟨rfl, hl, hd⟩ rfl d
    obtain ⟨hl', hd'⟩ := finish_depth h d ctx
    exact ⟨rfl, hl'.trans hl, hd'.trans hd⟩

end Context

open Context (AtDepth stable_atDepth)

/-- What is entered is left again, whether there was a decision or not. -/
theorem Context.enters_atDepth (limit depth : Nat) :
    Enters (AtDepth limit depth) (AtDepth limit (depth + 1)) where
  enter := by
    rintro ctx _ ⟨rfl, hl, hd⟩
    unfold Context.enterReference?
    split
    · exact .some ⟨rfl, hl, congrArg (· + 1) hd⟩
    · exact .none
  leave := by
    rintro ctx _ ⟨rfl, hl, hd⟩
    exact ⟨rfl, hl, by simp [Context.leaveReference, hd]⟩

namespace Scene

theorem childWithin_keeps_depth (s : Scene) (k : Nat) (n : Node) (limit depth : Nat) :
    Keeps (AtDepth limit depth) (s.childWithin k n).run (s.childWithin k n).run :=
  (s.childWithin_like (stable_atDepth limit) (Context.enters_atDepth limit) k n depth).run

theorem evaluateNode_depth (s : Scene) (n : Node) (ctx : Context) :
    (s.evaluateNode n ctx).2.maxReferenceDepth = ctx.maxReferenceDepth ∧
      (s.evaluateNode n ctx).2.referenceDepth = ctx.referenceDepth :=
  (s.childWithin_keeps_depth (room ctx) n _ _ ctx ctx ⟨rfl, rfl, rfl⟩).2.2

/-- A node as a child that `eval` runs. -/
def answering (eval : Node → Context → Option Decision × Context) (n : Node) : Child :=
  ⟨n.obligations, n.carriesObligations, eval n⟩

/-- One level of an evaluation, which leaves to `eval` the nodes it leads to. -/
def expand (s : Scene) (eval : Node → Context → Option Decision × Context) :
    Node → Context → Option Decision × Context
  | .policy p => p.run s
  | .policySet h children => h.run s (children.map (·.map (·.map (answering eval))))
  | .reference id => s.follow (answering eval) id

/-- So many levels of an evaluation, which leaves to `eval` whatever lies deeper. -/
def unfolded (s : Scene) (eval : Node → Context → Option Decision × Context) :
    Nat → Node → Context → Option Decision × Context
  | 0 => eval
  | k + 1 => s.expand (s.unfolded eval k)

/-- Evaluating `p.1` on `p.2` asks for `q.1` on `q.2`: another answer there alone would make another
answer here. What is looked up is carried along to the end, so no answer is without effect. -/
def Asks (s : Scene) (p q : Node × Context) : Prop :=
  ∃ eval : Node → Context → Option Decision × Context,
    (∀ r, r ≠ q → eval r.1 r.2 = s.evaluateNode r.1 r.2) ∧
      s.expand eval p.1 p.2 ≠ s.evaluateNode p.1 p.2

/-- What one evaluation may ask for: a node beneath it with as many references open, or the node a
reference leads to, on the context that has it open. -/
inductive Leads (s : Scene) : Node × Context → Node × Context → Prop
  | child {h children m ctx ctx'} : m ∈ presentIn children →
      ctx'.maxReferenceDepth = ctx.maxReferenceDepth → ctx'.referenceDepth = ctx.referenceDepth →
      Leads s (.policySet h children, ctx) (m, ctx')
  | reference {id m ctx inner} : s.resolve id = some m → ctx.enterReference? = some inner →
      Leads s (.reference id, ctx) (m, inner)

theorem evaluateNode_policySet (s : Scene) (h : PolicySetHeader)
    (children : Option (List (Option Node))) (ctx : Context) :
    s.evaluateNode (.policySet h children) ctx =
      h.run s (children.map (·.map (·.map (s.childWithin (room ctx))))) ctx := by
  unfold evaluateNode
  cases room ctx with
  | zero =>
    rw [childWithin, Node.child, Node.childrenOf_eq_map]
    rfl
  | succ k =>
    rw [childWithin, Node.child, Node.childrenOf_eq_map]
    rfl

theorem childWithin_given (s : Scene) (k : Nat) (n : Node) :
    n.obligations = (s.childWithin k n).declared ∧
      n.carriesObligations = (s.childWithin k n).carries := by
  cases k <;> cases n <;> exact ⟨rfl, rfl⟩

/-- Where `eval` answers as nodes evaluate, a child it runs is as good as the node. -/
theorem answering_like (s : Scene) {eval : Node → Context → Option Decision × Context} {n : Node}
    {limit depth : Nat} (h : ∀ ctx, ctx.maxReferenceDepth = limit → ctx.referenceDepth = depth →
      eval n ctx = s.evaluateNode n ctx) :
    (answering eval n).Like (AtDepth limit depth) (s.childWithin (limit - depth) n) := by
  obtain ⟨hd, hc⟩ := s.childWithin_given (limit - depth) n
  refine ⟨hd, hc, ?_⟩
  rintro ctx _ ⟨rfl, hl, hd⟩
  have hrun : eval n ctx = (s.childWithin (limit - depth) n).run ctx := by
    rw [h ctx hl hd, evaluateNode, room, hl, hd]
  obtain ⟨-, hk⟩ := s.childWithin_keeps_depth (limit - depth) n limit depth ctx ctx ⟨rfl, hl, hd⟩
  show (eval n ctx).1 = _ ∧ AtDepth limit depth (eval n ctx).2 _
  rw [hrun]
  exact ⟨rfl, hk⟩

/-- An evaluation comes to what its own level makes of the answers it may ask for, whatever is
answered elsewhere. -/
theorem expand_eq (s : Scene) {eval : Node → Context → Option Decision × Context} {n : Node}
    {ctx : Context} (h : ∀ q, s.Leads (n, ctx) q → eval q.1 q.2 = s.evaluateNode q.1 q.2) :
    s.expand eval n ctx = s.evaluateNode n ctx := by
  cases n with
  | policy p =>
    unfold evaluateNode
    cases room ctx <;> rfl
  | policySet header children =>
    have hx : ∀ m ∈ presentIn children,
        (answering eval m).Like (AtDepth ctx.maxReferenceDepth ctx.referenceDepth)
          (s.childWithin (room ctx) m) := fun m hm =>
      s.answering_like fun c hl hd => h (m, c) (.child hm hl hd)
    have hk := header.run_keeps (stable_atDepth ctx.maxReferenceDepth ctx.referenceDepth) s hx
      ctx ctx ⟨rfl, rfl, rfl⟩
    rw [evaluateNode_policySet]
    exact Prod.ext hk.1 hk.2.1
  | reference id =>
    unfold evaluateNode
    show s.follow (answering eval) id ctx = _
    cases hr : s.resolve id with
    | none => cases hk : room ctx <;> simp [follow, hr, childWithin, Node.child]
    | some m =>
      cases he : ctx.enterReference? with
      | none => cases hk : room ctx <;> simp [follow, hr, he, childWithin, Node.child]
      | some inner =>
        have hm : eval m inner = (s.childWithin (room inner) m).run inner := h _ (.reference hr he)
        rw [← room_of_enterReference? he]
        simp only [follow, hr, he, childWithin, Node.child, answering, hm]

theorem leads_of_asks {s : Scene} {p q : Node × Context} (h : s.Asks p q) : s.Leads p q := by
  obtain ⟨eval, hsame, hdiff⟩ := h
  apply Classical.byContradiction
  intro hq
  apply hdiff
  apply s.expand_eq
  intro r hr
  apply hsame r
  rintro rfl
  exact hq hr

/-- What is still to be spent: references first, and then the size of the tree. -/
noncomputable def budget (p : Node × Context) : Nat × Nat := (room p.2, sizeOf p.1)

theorem sizeOf_lt_of_mem {h : PolicySetHeader} {children : Option (List (Option Node))} {n : Node}
    (hn : n ∈ presentIn children) : sizeOf n < sizeOf (Node.policySet h children) := by
  cases children with
  | none => exact absurd hn List.not_mem_nil
  | some slots =>
    have hm : some n ∈ slots := by simpa [presentIn] using hn
    have hlt := List.sizeOf_lt_of_mem hm
    simp only [Option.some.sizeOf_spec, Node.policySet.sizeOf_spec] at hlt ⊢
    omega

theorem Leads.budget_lt {s : Scene} {p q : Node × Context} (h : s.Leads p q) :
    Prod.Lex (· < ·) (· < ·) (budget q) (budget p) := by
  cases h with
  | @child h children m ctx ctx' hm hl hd =>
    have hroom : room ctx' = room ctx := by rw [room, room, hl, hd]
    show Prod.Lex _ _ (room ctx', sizeOf m) (room ctx, sizeOf (Node.policySet h children))
    rw [hroom]
    exact .right _ (sizeOf_lt_of_mem hm)
  | @reference id m ctx inner hr he =>
    apply Prod.Lex.left
    show room inner < room ctx
    rw [← room_of_enterReference? he]
    exact Nat.lt_succ_self _

theorem leads_wellFounded (s : Scene) : WellFounded fun q p => s.Leads p q :=
  Subrelation.wf (fun h => h.budget_lt) (InvImage.wf budget (Prod.lex Nat.lt_wfRel Nat.lt_wfRel).wf)

theorem unfolded_succ (s : Scene) (eval : Node → Context → Option Decision × Context) (k : Nat) :
    s.unfolded eval (k + 1) = s.unfolded (s.expand eval) k := by
  induction k with
  | zero => rfl
  | succ k ih => rw [unfolded, ih, ← unfolded]

/-- So many levels settle what a node comes to, whatever is answered below them. -/
def Settles (s : Scene) (k : Nat) (n : Node) (ctx : Context) : Prop :=
  ∀ eval, s.unfolded eval k n ctx = s.evaluateNode n ctx

theorem Settles.mono {s : Scene} {k j : Nat} {n : Node} {ctx : Context} (h : s.Settles k n ctx)
    (hj : k ≤ j) : s.Settles j n ctx := by
  induction hj with
  | refl => exact h
  | step _ ih =>
    intro eval
    rw [unfolded_succ]
    exact ih (s.expand eval)

theorem settles_succ {s : Scene} {k : Nat} {n : Node} {ctx : Context}
    (h : ∀ q, s.Leads (n, ctx) q → s.Settles k q.1 q.2) : s.Settles (k + 1) n ctx :=
  fun eval => s.expand_eq fun q hq => h q hq eval

/-- One number of levels serves for all of a list. -/
theorem exists_settles_list {s : Scene} {r : Nat} {ns : List Node}
    (h : ∀ n ∈ ns, ∃ k, ∀ ctx, room ctx = r → s.Settles k n ctx) :
    ∃ k, ∀ n ∈ ns, ∀ ctx, room ctx = r → s.Settles k n ctx := by
  induction ns with
  | nil => exact ⟨0, by simp⟩
  | cons n ns ih =>
    obtain ⟨k, hk⟩ := h n List.mem_cons_self
    obtain ⟨j, hj⟩ := ih fun m hm => h m (List.mem_cons_of_mem n hm)
    refine ⟨max k j, ?_⟩
    intro m hm ctx hr
    rcases List.mem_cons.mp hm with rfl | hm
    · exact (hk ctx hr).mono (Nat.le_max_left k j)
    · exact (hj m hm ctx hr).mono (Nat.le_max_right k j)

/-- Trees are settled if what lies behind one more reference is. -/
theorem exists_settles_of_behind {s : Scene} {r : Nat}
    (hb : ∀ m, ∃ k, ∀ inner, room inner + 1 = r → s.Settles k m inner) (n : Node) :
    ∃ k, ∀ ctx, room ctx = r → s.Settles k n ctx := by
  induction n using Node.induct with
  | hp p => exact ⟨1, fun ctx _ => settles_succ fun q hq => by cases hq⟩
  | hs h children ih =>
    obtain ⟨k, hk⟩ := exists_settles_list ih
    refine ⟨k + 1, fun ctx hr => settles_succ fun q hq => ?_⟩
    cases hq with
    | child hm hl hd => exact hk _ hm _ (by rw [← hr, room, room, hl, hd])
  | hr id =>
    cases hres : s.resolve id with
    | none =>
      refine ⟨1, fun ctx _ => settles_succ fun q hq => ?_⟩
      cases hq with
      | reference hm _ => simp [hres] at hm
    | some m =>
      obtain ⟨k, hk⟩ := hb m
      refine ⟨k + 1, fun ctx hr => settles_succ fun q hq => ?_⟩
      cases hq with
      | reference hm he =>
        obtain rfl := Option.some.inj (hres.symm.trans hm)
        exact hk _ ((room_of_enterReference? he).trans hr)

/-- How many levels settle a node hangs on how many references may still be opened, and on nothing else
of the context. -/
theorem exists_settles (s : Scene) (r : Nat) (n : Node) :
    ∃ k, ∀ ctx, room ctx = r → s.Settles k n ctx := by
  induction r generalizing n with
  | zero => exact exists_settles_of_behind (fun m => ⟨0, fun inner h => by omega⟩) n
  | succ r ih =>
    apply exists_settles_of_behind _ n
    intro m
    obtain ⟨k, hk⟩ := ih m
    exact ⟨k, fun inner h => hk inner (by omega)⟩

/-- How many references one step of a path opens. -/
def opens : Node → Nat
  | .reference _ => 1
  | _ => 0

/-- A path of evaluations, each of which asks for the next, and how many references it opens. -/
inductive Path (s : Scene) : Node × Context → Nat → Node × Context → Prop
  | nil (p : Node × Context) : Path s p 0 p
  | cons {p q r k} : s.Asks p q → Path s q k r → Path s p (opens p.1 + k) r

theorem Leads.depth {s : Scene} {p q : Node × Context} (h : s.Leads p q) :
    q.2.maxReferenceDepth = p.2.maxReferenceDepth ∧
      q.2.referenceDepth = p.2.referenceDepth + opens p.1 ∧ room q.2 + opens p.1 = room p.2 := by
  cases h with
  | child hm hl hd => exact ⟨hl, hd, by simp [room, hl, hd, opens]⟩
  | reference hr he =>
    have hroom := room_of_enterReference? he
    obtain ⟨-, rfl⟩ := Context.enterReference?_eq_some he
    exact ⟨rfl, rfl, hroom⟩

theorem Path.depth {s : Scene} {p q : Node × Context} {k : Nat} (h : s.Path p k q) :
    q.2.maxReferenceDepth = p.2.maxReferenceDepth ∧
      q.2.referenceDepth = p.2.referenceDepth + k ∧ room q.2 + k = room p.2 := by
  induction h with
  | nil p => exact ⟨rfl, rfl, rfl⟩
  | cons ha _ ih =>
    obtain ⟨hl, hd, hr⟩ := (leads_of_asks ha).depth
    obtain ⟨il, id, ir⟩ := ih
    exact ⟨il.trans hl, by omega, by omega⟩

theorem follow_decision (s : Scene) (childOf : Node → Child) {id : String} {m : Node}
    {ctx inner : Context} (hr : s.resolve id = some m) (he : ctx.enterReference? = some inner) :
    (s.follow childOf id ctx).1 = ((childOf m).run inner).1 := by
  unfold follow
  rw [hr, he]
  dsimp only
  rcases (childOf m).run inner with ⟨o, c⟩
  cases o with
  | none => rfl
  | some d =>
    dsimp only
    cases d.effect? <;> rfl

/-- A reference asks for the node it leads to, on the context that has it open, if it may be opened. -/
theorem asks_reference_iff {s : Scene} {id : String} {m : Node} {ctx inner : Context} :
    s.Asks (.reference id, ctx) (m, inner) ↔
      s.resolve id = some m ∧ ctx.enterReference? = some inner := by
  constructor
  · intro h
    cases leads_of_asks h with
    | reference hr he => exact ⟨hr, he⟩
  · rintro ⟨hr, he⟩
    let other : Option Decision := if (s.evaluateNode m inner).1 = none then some .permit else none
    have hother : other ≠ (s.evaluateNode m inner).1 := by
      cases h : (s.evaluateNode m inner).1 <;> simp [other, h]
    refine ⟨fun n c => if (n, c) = (m, inner) then (other, c) else s.evaluateNode n c, ?_, ?_⟩
    · intro r hne
      exact if_neg hne
    · intro heq
      apply hother
      have hself : s.expand s.evaluateNode (.reference id) ctx = s.evaluateNode (.reference id) ctx :=
        s.expand_eq fun _ _ => rfl
      have hd := congrArg Prod.fst (heq.trans hself.symm)
      simpa only [expand, s.follow_decision _ hr he, answering, if_true] using hd

/-- The evaluations of a scene come to an end, whatever references lead to. -/
structure Ends (s : Scene) : Prop where
  /-- An evaluation is what its own level makes of those it asks for. Only the context bounds it. -/
  recursion : ∀ n ctx, s.evaluateNode n ctx = s.expand s.evaluateNode n ctx
  opened : ∀ id ctx m inner, s.Asks (.reference id, ctx) (m, inner) ↔
    s.resolve id = some m ∧ ctx.enterReference? = some inner
  /-- Whatever was evaluated before a child, it finds as many references open as its parent did. -/
  beneath : ∀ h children ctx m ctx', s.Asks (.policySet h children, ctx) (m, ctx') →
    m ∈ presentIn children ∧ ctx'.maxReferenceDepth = ctx.maxReferenceDepth ∧
      ctx'.referenceDepth = ctx.referenceDepth
  wellFounded : WellFounded fun q p => s.Asks p q
  /-- After so many levels nothing is asked any more. -/
  settled : ∀ n ctx, ∃ k, s.Settles k n ctx
  /-- As many references are open as a path has opened, on top of those open at its start. -/
  bounded : ∀ p k q, s.Path p k q →
    q.2.referenceDepth = p.2.referenceDepth + k ∧
      (p.2.referenceDepth ≤ p.2.maxReferenceDepth → q.2.referenceDepth ≤ p.2.maxReferenceDepth)
  balanced : ∀ n ctx, (s.evaluateNode n ctx).2.referenceDepth = ctx.referenceDepth
  rules : ∀ (a : RuleAlgorithm) slots ctx,
    (s.combineRules a slots ctx).2.referenceDepth = ctx.referenceDepth
  /-- A fold over nodes likewise, and whether it respects abandoned children need not be as in the
  scene. -/
  nodes : ∀ (a : PolicyAlgorithm) ra (slots : Option (List (Option Node))) ctx,
    let out := a.combine ra (slots.map (·.map (·.map (s.childWithin (room ctx))))) ctx
    out.2.referenceDepth = ctx.referenceDepth ∧
      ∃ k, ∀ eval, a.combine ra (slots.map (·.map (·.map (answering (s.unfolded eval k))))) ctx = out

/-- Every evaluation ends, has no more references open than may be, and leaves with as many open as it
came with. -/
theorem evaluation_ends (s : Scene) : s.Ends where
  recursion n ctx := (s.expand_eq fun _ _ => rfl).symm
  opened id ctx m inner := asks_reference_iff
  beneath h children ctx m ctx' ha := by
    cases leads_of_asks ha with
    | child hm hl hd => exact ⟨hm, hl, hd⟩
  wellFounded := Subrelation.wf leads_of_asks s.leads_wellFounded
  settled n ctx := by
    obtain ⟨k, hk⟩ := s.exists_settles (room ctx) n
    exact ⟨k, hk ctx rfl⟩
  bounded p k q h := by
    obtain ⟨-, hd, hr⟩ := h.depth
    refine ⟨hd, ?_⟩
    intro hle
    unfold room at hr
    omega
  balanced n ctx := (s.evaluateNode_depth n ctx).2
  rules a slots ctx :=
    (a.combine_keeps (stable_atDepth ctx.maxReferenceDepth ctx.referenceDepth) s.matching slots
      ctx ctx ⟨rfl, rfl, rfl⟩).2.2.2
  nodes a ra slots ctx := by
    have hs := stable_atDepth ctx.maxReferenceDepth ctx.referenceDepth
    obtain ⟨k, hk⟩ : ∃ k, ∀ n ∈ presentIn slots, ∀ c, room c = room ctx → s.Settles k n c :=
      exists_settles_list fun n _ => s.exists_settles (room ctx) n
    have hsettled (eval : Node → Context → Option Decision × Context) :
        a.combine ra (slots.map (·.map (·.map (answering (s.unfolded eval k))))) ctx =
          a.combine ra (slots.map (·.map (·.map (s.childWithin (room ctx))))) ctx := by
      have hx : ∀ n ∈ presentIn slots, (answering (s.unfolded eval k) n).Like
          (AtDepth ctx.maxReferenceDepth ctx.referenceDepth) (s.childWithin (room ctx) n) :=
        fun n hn => s.answering_like fun c hl hd => hk n hn c (by rw [room, room, hl, hd]) eval
      have hkeep := a.combine_keeps hs ra slots hx ctx ctx ⟨rfl, rfl, rfl⟩
      exact Prod.ext hkeep.1 hkeep.2.1
    have hself : ∀ n ∈ presentIn slots, (s.childWithin (room ctx) n).Like
        (AtDepth ctx.maxReferenceDepth ctx.referenceDepth) (s.childWithin (room ctx) n) :=
      fun n _ => ⟨rfl, rfl, s.childWithin_keeps_depth (room ctx) n _ _⟩
    exact ⟨(a.combine_keeps hs ra slots hself ctx ctx ⟨rfl, rfl, rfl⟩).2.2.2, k, hsettled⟩

/-- A reference that leads to itself is followed until no more may be opened. -/
example : ((leadingTo (.reference "a")).evaluateNode (.reference "a") {}).1 = some .indeterminate ∧
    ((leadingTo (.reference "a")).evaluateNode (.reference "a") {}).2.referenceDepth = 0 := by
  decide

end Scene

end Arbiter
