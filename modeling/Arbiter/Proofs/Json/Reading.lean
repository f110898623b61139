import Arbiter.Proofs.Json.Fits
import Arbiter.Shape.Json
import Mathlib.Tactic.SplitIfs

namespace Arbiter.Json

/-- What each step of a fold keeps holds at its end. -/
theorem foldlM_keeps {σ α : Type} {step : σ → α → Option σ} {p : σ → Prop} {q : α → Prop}
    (hstep : ∀ {s a s'}, p s → q a → step s a = some s' → p s') {as : List α} (has : ∀ a ∈ as, q a)
    {s s' : σ} (hs : p s) (h : as.foldlM step s = some s') : p s' := by
  induction as generalizing s with
  | nil =>
    cases h
    exact hs
  | cons a as ih =>
    obtain ⟨ha, has⟩ := List.forall_mem_cons.1 has
    rw [List.foldlM_cons, Option.bind_eq_bind, Option.bind_eq_some_iff] at h
    obtain ⟨t, ht, hrest⟩ := h
    exact ih has (hstep hs ha ht) hrest

theorem Numeral.Parts.hasNumeral_of_value? {p : Parts} {v : Json} (h : p.value? = some v) : v.hasNumeral := by
  unfold value? at h
  extract_lets n double at h
  have hdouble : double = some v → v.hasNumeral := by
    intro hv
    dsimp only [double] at hv
    split at hv
    · cases hv
      rfl
    · cases hv
  split at h
  · exact hdouble h
  split at h
  · split at h
    · rename_i hfits
      cases h
      rw [hasNumeral, hfits.2, Bool.true_or]
    · exact hdouble h
  · split at h
    · rename_i hfits
      cases h
      rw [hasNumeral, hfits, Bool.or_true]
    · exact hdouble h

/-- Whether a numeral is read as this. -/
def IsRead (v : Json) : Prop := ∃ p : Numeral.Parts, p.value? = some v

theorem IsRead.hasNumeral {v : Json} : v.IsRead → v.hasNumeral
  | ⟨_, hp⟩ => Numeral.Parts.hasNumeral_of_value? hp

namespace Token

/-- Whether the value of a number is one that a numeral is read as. -/
def IsNumeric : Token → Prop
  | number v => ∀ n ∈ v, n.IsRead
  | _ => True

variable {s s' : State} {ts : List Token}

theorem isNumeric_finish? (hs : ∀ t ∈ s.tokens, t.IsNumeric) (h : finish? s = some ts) :
    ∀ t ∈ ts, t.IsNumeric := by
  unfold finish? at h
  split at h
  · cases h
    exact hs
  · obtain ⟨t, ht, rfl⟩ := Option.map_eq_some_iff.1 h
    refine List.forall_mem_cons.2 ⟨?_, hs⟩
    unfold word? at ht
    split_ifs at ht <;> cases ht <;> trivial
  · obtain ⟨p, hp, rfl⟩ := Option.map_eq_some_iff.1 h
    exact List.forall_mem_cons.2 ⟨fun v hv => ⟨p, hv⟩, hs⟩
  · cases h

theorem isNumeric_between {c : Char} (hts : ∀ t ∈ ts, t.IsNumeric) (h : between ts c = some s) :
    ∀ t ∈ s.tokens, t.IsNumeric := by
  have hother : ∀ {t : Token}, some ⟨.between, t :: ts⟩ = some s → t.IsNumeric →
      ∀ t ∈ s.tokens, t.IsNumeric := by
    rintro t ⟨⟩ ht
    exact List.forall_mem_cons.2 ⟨ht, hts⟩
  unfold between at h
  split_ifs at h
  all_goals first | exact hother h trivial | (cases h; exact hts)

theorem isNumeric_step {c : Char} (hs : ∀ t ∈ s.tokens, t.IsNumeric) (h : step s c = some s') :
    ∀ t ∈ s'.tokens, t.IsNumeric := by
  have hfinished : ∀ {s'}, (finish? s).bind (between · c) = some s' → ∀ t ∈ s'.tokens, t.IsNumeric := by
    intro s' h
    obtain ⟨ts, hts, h⟩ := Option.bind_eq_some_iff.1 h
    exact isNumeric_between (isNumeric_finish? hs hts) h
  unfold step at h
  split at h
  · exact isNumeric_between hs h
  · split_ifs at h
    · cases h
      exact hs
    · exact hfinished h
  · split_ifs at h
    · cases h
      exact hs
    · exact hfinished h
  · split_ifs at h
    · cases h
      exact List.forall_mem_cons.2 ⟨trivial, hs⟩
    · cases h
      exact hs
    · cases h
      exact hs
  · split_ifs at h
    · cases h
      exact hs
    · obtain ⟨d, -, rfl⟩ := Option.map_eq_some_iff.1 h
      exact hs
  · simp only [Option.bind_eq_bind, Option.bind_eq_some_iff] at h
    obtain ⟨d, -, h⟩ := h
    split_ifs at h <;> cases h <;> exact hs

theorem isNumeric_ofText? {text : String} (h : ofText? text = some ts) : ∀ t ∈ ts, t.IsNumeric := by
  simp only [ofText?, Option.bind_eq_bind, Option.bind_eq_some_iff, Option.pure_def, Option.some.injEq] at h
  obtain ⟨s, hs, ts, hts, rfl⟩ := h
  have hread : ∀ t ∈ s.tokens, t.IsNumeric :=
    foldlM_keeps (p := fun s => ∀ t ∈ s.tokens, t.IsNumeric) (q := fun _ => True)
      (fun hs _ h => isNumeric_step hs h) (fun _ _ => trivial) nofun hs
  exact fun t ht => isNumeric_finish? hread hts t (List.mem_reverse.1 ht)

end Token

namespace Tree

/-- Whether all numbers of a tree are read from numerals. -/
inductive IsNumeric : Tree → Prop
  | null : IsNumeric null
  | bool (b : Bool) : IsNumeric (bool b)
  | number {v : Option Json} : (∀ n ∈ v, n.IsRead) → IsNumeric (number v)
  | string (s : Option String) : IsNumeric (string s)
  | array {items : List Tree} : (∀ t ∈ items, IsNumeric t) → IsNumeric (array items)
  | object {members : List (Option String × Tree)} :
    (∀ m ∈ members, IsNumeric m.2) → IsNumeric (object members)

end Tree

namespace Reader

/-- Whether all trees that an open array or object holds are numeric. -/
def FrameIsNumeric : Frame → Prop
  | .array before => ∀ t ∈ before, t.IsNumeric
  | .object before _ => ∀ m ∈ before, m.2.IsNumeric

def AwaitingIsNumeric : Awaiting → Prop
  | .firstKey before | .key before | .colon before _ => ∀ m ∈ before, m.2.IsNumeric
  | .finish t => t.IsNumeric
  | .value | .firstItem | .separator => True

structure IsNumeric (r : Reader) : Prop where
  awaiting : AwaitingIsNumeric r.awaiting
  stack : ∀ f ∈ r.stack, FrameIsNumeric f

theorem isNumeric_complete {t : Tree} (ht : t.IsNumeric) {stack : List Frame}
    (hstack : ∀ f ∈ stack, FrameIsNumeric f) : (complete t stack).IsNumeric := by
  cases stack with
  | nil => exact ⟨ht, nofun⟩
  | cons f stack =>
    obtain ⟨hf, hrest⟩ := List.forall_mem_cons.1 hstack
    cases f with
    | array before =>
      exact ⟨trivial, List.forall_mem_cons.2 ⟨List.forall_mem_cons.2 ⟨ht, hf⟩, hrest⟩⟩
    | object before key =>
      exact ⟨trivial, List.forall_mem_cons.2 ⟨List.forall_mem_cons.2 ⟨ht, hf⟩, hrest⟩⟩

theorem isNumeric_beginValue {stack : List Frame} (hstack : ∀ f ∈ stack, FrameIsNumeric f) {t : Token}
    (ht : t.IsNumeric) {r : Reader} (h : beginValue stack t = some r) : r.IsNumeric := by
  unfold beginValue at h
  split at h <;> cases h
  · exact isNumeric_complete .null hstack
  · exact isNumeric_complete (.bool _) hstack
  · exact isNumeric_complete (.number ht) hstack
  · exact isNumeric_complete (.string _) hstack
  · exact ⟨trivial, List.forall_mem_cons.2 ⟨nofun, hstack⟩⟩
  · exact ⟨nofun, hstack⟩

theorem isNumeric_closeArray {before : List Tree} {stack : List Frame}
    (hstack : ∀ f ∈ Frame.array before :: stack, FrameIsNumeric f) :
    (complete (.array before.reverse) stack).IsNumeric := by
  obtain ⟨hbefore, hrest⟩ := List.forall_mem_cons.1 hstack
  exact isNumeric_complete (.array fun t ht => hbefore t (List.mem_reverse.1 ht)) hrest

theorem isNumeric_closeObject {before : List (Option String × Tree)} {stack : List Frame}
    (hbefore : ∀ m ∈ before, m.2.IsNumeric) (hstack : ∀ f ∈ stack, FrameIsNumeric f) :
    (complete (.object before.reverse) stack).IsNumeric :=
  isNumeric_complete (.object fun m hm => hbefore m (List.mem_reverse.1 hm)) hstack

theorem isNumeric_step {r r' : Reader} {t : Token} (hr : r.IsNumeric) (ht : t.IsNumeric)
    (h : step r t = some r') : r'.IsNumeric := by
  obtain ⟨awaiting, stack⟩ := r
  obtain ⟨hawaiting, hstack⟩ := hr
  dsimp only at hstack
  unfold step at h
  dsimp only at h
  -- One case for each state and token that go together, in the order in which the step lists them.
  split at h
  · exact isNumeric_beginValue hstack ht h
  · split at h <;> cases h
    exact isNumeric_closeArray hstack
  · exact isNumeric_beginValue hstack ht h
  · cases h
    exact isNumeric_closeObject hawaiting hstack
  · cases h
    exact ⟨hawaiting, hstack⟩
  · cases h
    exact ⟨hawaiting, hstack⟩
  · cases h
    exact ⟨trivial, List.forall_mem_cons.2 ⟨hawaiting, hstack⟩⟩
  · split at h <;> cases h
    · exact ⟨trivial, hstack⟩
    · obtain ⟨hbefore, hrest⟩ := List.forall_mem_cons.1 hstack
      exact ⟨hbefore, hrest⟩
  · split at h <;> cases h
    exact isNumeric_closeArray hstack
  · split at h <;> cases h
    obtain ⟨hbefore, hrest⟩ := List.forall_mem_cons.1 hstack
    exact isNumeric_closeObject hbefore hrest
  · cases h

theorem isNumeric_ofTokens? {ts : List Token} (hts : ∀ t ∈ ts, t.IsNumeric) {t : Tree}
    (h : Tree.ofTokens? ts = some t) : t.IsNumeric := by
  simp only [Tree.ofTokens?, Option.bind_eq_bind, Option.bind_eq_some_iff] at h
  obtain ⟨r, hr, h⟩ := h
  have hstart : ({} : Reader).IsNumeric := ⟨trivial, nofun⟩
  have hread : r.IsNumeric := foldlM_keeps isNumeric_step hts hstart hr
  split at h
  · rename_i hawaiting
    cases h
    have hfinished := hread.awaiting
    rwa [hawaiting] at hfinished
  · cases h

end Reader

namespace Tree

theorem isNumeric_ofText? {text : String} {t : Tree} (h : ofText? text = some t) : t.IsNumeric := by
  obtain ⟨ts, hts, h⟩ := Option.bind_eq_some_iff.1 h
  exact Reader.isNumeric_ofTokens? (Token.isNumeric_ofText? hts) h

end Tree

end Arbiter.Json
