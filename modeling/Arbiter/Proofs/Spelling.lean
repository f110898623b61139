import Arbiter.Proofs.Congruence
import Arbiter.Proofs.Magnitude

/-! What it changes to write whole numbers as doubles, in a request or in a condition.

Comparisons by size turn every number into a double, so they do not see it. Comparisons for equality keep whole
numbers apart from doubles in one of four cases: a double never equals a whole operand. There, and where
a whole number is too large to be a double, numbers clash that would be equal as doubles. -/

namespace Arbiter

/-- Whether a whole number and all smaller ones are doubles. -/
def Binary64.isExact (n : Int) : Bool := n.natAbs ≤ 2 ^ 53

namespace Json

mutual

/-- The value with its exact whole numbers written as doubles. -/
def inDoubles : Json → Json
  | integer n => if Binary64.isExact n then double (.ofInt n) else integer n
  | array vs => array (inDoublesItems vs)
  | object ms => object (inDoublesMembers ms)
  | null => null
  | bool b => bool b
  | double x => double x
  | string s => string s

def inDoublesItems : List Json → List Json
  | [] => []
  | v :: vs => inDoubles v :: inDoublesItems vs

def inDoublesMembers : List (String × Json) → List (String × Json)
  | [] => []
  | (k, v) :: ms => (k, inDoubles v) :: inDoublesMembers ms

end

theorem inDoublesItems_eq (vs : List Json) : inDoublesItems vs = vs.map inDoubles := by
  induction vs with
  | nil => rfl
  | cons v vs ih => rw [inDoublesItems, ih, List.map_cons]

theorem toDouble?_inDoubles (v : Json) : v.inDoubles.toDouble? = v.toDouble? := by
  cases v with
  | integer n =>
    rw [inDoubles]
    split <;> rfl
  | _ => rfl

end Json

namespace Operand

mutual

/-- The operand with its exact whole numbers written as doubles. -/
def inDoubles : Operand → Operand
  | integer n => if Binary64.isExact n.toInt then double (.ofInt n.toInt) else integer n
  | array bs => array (inDoublesItems bs)
  | string s => string s
  | double x => double x
  | boolean b => boolean b
  | null => null

def inDoublesItems : List Operand → List Operand
  | [] => []
  | b :: bs => inDoubles b :: inDoublesItems bs

end

theorem inDoublesItems_eq (bs : List Operand) : inDoublesItems bs = bs.map inDoubles := by
  induction bs with
  | nil => rfl
  | cons b bs ih => rw [inDoublesItems, ih, List.map_cons]

theorem toDouble?_inDoubles (b : Operand) : b.inDoubles.toDouble? = b.toDouble? := by
  cases b with
  | integer n =>
    rw [inDoubles]
    split <;> rfl
  | _ => rfl

end Operand

mutual

/-- Whether a number meets an exact whole operand that it is not but, as a double, is near. -/
def clashes : Json → Operand → Bool
  | .double x, .integer n => Binary64.isExact n.toInt && x.near (.ofInt n.toInt)
  | .integer m, .integer n =>
    Binary64.isExact n.toInt && m ≠ n.toInt && (Binary64.ofInt m).near (.ofInt n.toInt)
  | .array vs, .array bs => clashesSome vs bs
  | _, _ => false

def clashesSome : List Json → List Operand → Bool
  | v :: vs, b :: bs => clashes v b || clashesSome vs bs
  | _, _ => false

end

theorem Binary64.near_self {n : Int} (h : isExact n) : (ofInt n).near (ofInt n) := by
  have hn : n.natAbs ≤ 2 ^ 53 := by simpa [isExact] using h
  exact (near_ofInt_iff hn hn).mpr rfl

theorem equalValue_whole (v : Json) (n : Int64) : equalValue v (.integer n) =
    (equalValue v.inDoubles (Operand.integer n).inDoubles && !clashes v (.integer n)) := by
  by_cases hn : Binary64.isExact n.toInt
  · rw [Operand.inDoubles, if_pos hn]
    cases v with
    | integer m =>
      -- The value turns into a double too, or it is too large and is compared as one.
      have hnear : equalValue (Json.integer m).inDoubles (.double (.ofInt n.toInt)) =
          (Binary64.ofInt m).near (.ofInt n.toInt) := by
        rw [Json.inDoubles]
        split <;> rfl
      rw [hnear, equalValue, clashes, hn, Bool.true_and]
      by_cases heq : m = n.toInt
      · simp [heq, Binary64.near_self hn]
      · simp [heq]
    | double x => simp [equalValue, Json.inDoubles, clashes, hn]
    | null | bool | string | array | object => rfl
  · rw [Operand.inDoubles, if_neg hn]
    cases v with
    | integer m =>
      have hsame : equalValue (Json.integer m).inDoubles (.integer n) = equalValue (.integer m) (.integer n) := by
        rw [Json.inDoubles]
        split
        · rename_i hm
          have hne : m ≠ n.toInt := fun heq => hn (heq ▸ hm)
          simp [equalValue, hne]
        · rfl
      simp [hsame, clashes, hn]
    | null | bool | double | string | array | object => rfl

theorem equalValue_double (v : Json) (y : Binary64) : equalValue v (.double y) =
    (equalValue v.inDoubles (Operand.double y).inDoubles && !clashes v (.double y)) := by
  cases v with
  | integer m =>
    have hnear : equalValue (Json.integer m).inDoubles (.double y) = equalValue (.integer m) (.double y) := by
      rw [Json.inDoubles]
      split <;> rfl
    exact hnear.symm.trans (Bool.and_true _).symm
  | double x => exact (Bool.and_true _).symm
  | null | bool | string | array | object => rfl

theorem equalValue_integer {b : Operand} (hb : b.toDouble? = none) (m : Int) :
    equalValue (Json.integer m).inDoubles b = false := by
  rw [Json.inDoubles]
  cases b with
  | integer | double => cases hb
  | string | boolean | array | null => split <;> rfl

mutual

/-- Values are equal as written if they are equal written in doubles and none of their numbers clash. -/
theorem equalValue_eq (v : Json) (b : Operand) :
    equalValue v b = (equalValue v.inDoubles b.inDoubles && !clashes v b) := by
  cases b with
  | integer n => exact equalValue_whole v n
  | double y => exact equalValue_double v y
  | array bs =>
    cases v with
    | array vs => exact equalValues_eq vs bs
    | integer m => rw [equalValue_integer (b := (Operand.array bs).inDoubles) rfl]; rfl
    | null | bool | double | string | object => rfl
  | string t =>
    cases v with
    | string => exact (Bool.and_true _).symm
    | integer m => rw [equalValue_integer (b := (Operand.string t).inDoubles) rfl]; rfl
    | null | bool | double | array | object => rfl
  | boolean c =>
    cases v with
    | bool => exact (Bool.and_true _).symm
    | integer m => rw [equalValue_integer (b := (Operand.boolean c).inDoubles) rfl]; rfl
    | null | double | string | array | object => rfl
  | null =>
    cases v with
    | integer m => rw [equalValue_integer (b := Operand.null.inDoubles) rfl]; rfl
    | null | bool | double | string | array | object => rfl

theorem equalValues_eq (vs : List Json) (bs : List Operand) :
    equalValues vs bs =
      (equalValues (Json.inDoublesItems vs) (Operand.inDoublesItems bs) && !clashesSome vs bs) := by
  match vs, bs with
  | v :: vs, b :: bs =>
    rw [equalValues, equalValue_eq v b, equalValues_eq vs bs, Json.inDoublesItems, Operand.inDoublesItems,
      equalValues, clashesSome, Bool.not_or]
    ac_rfl
  | [], [] => rfl
  | [], _ :: _ => rfl
  | _ :: _, [] => rfl

end

theorem equalValue_inDoubles {v : Json} {b : Operand} (h : clashes v b = false) :
    equalValue v.inDoubles b.inDoubles = equalValue v b := by
  rw [equalValue_eq v b, h, Bool.not_false, Bool.and_true]

/-- The operands that a value may equal to be a candidate. -/
def Operand.candidates : Operand → List Operand
  | array bs => bs
  | b => [b]

/-- The items of a list; other values have none. -/
def Json.items : Json → List Json
  | array vs => vs
  | _ => []

theorem isCandidate_eq (v : Json) (b : Operand) : isCandidate v b = b.candidates.any (equalValue v) := by
  cases b with
  | array bs => rfl
  | _ => exact (Bool.or_false _).symm

theorem Operand.candidates_inDoubles (b : Operand) :
    b.inDoubles.candidates = b.candidates.map inDoubles := by
  cases b with
  | array bs => exact inDoublesItems_eq bs
  | integer n =>
    change (integer n).inDoubles.candidates = [(integer n).inDoubles]
    rw [inDoubles]
    split <;> rfl
  | _ => rfl

theorem Json.items_inDoubles (v : Json) : v.inDoubles.items = v.items.map inDoubles := by
  cases v with
  | array vs => exact inDoublesItems_eq vs
  | integer n =>
    rw [inDoubles]
    split <;> rfl
  | _ => rfl

/-- Whether an operator meets clashing numbers, when it compares a value with an operand for equality. -/
def clashesFor (o : Operator) (v : Json) (b : Operand) : Bool :=
  match o with
  | .test .equals | .notEquals => clashes v b
  | .test .within | .notWithin => b.candidates.any (clashes v)
  | .test .contains => v.items.any (clashes · b)
  | _ => false

theorem any_map_of_mem {g : α → β} {l : List α} {p : α → Bool} {q : β → Bool}
    (h : ∀ a ∈ l, q (g a) = p a) : (l.map g).any q = l.any p := by
  rw [List.any_map]
  exact any_congr_of_mem h

section

variable {v : Json} {b : Operand}

theorem isCandidate_inDoubles (h : b.candidates.any (clashes v) = false) :
    isCandidate v.inDoubles b.inDoubles = isCandidate v b := by
  rw [List.any_eq_false] at h
  rw [isCandidate_eq, isCandidate_eq, Operand.candidates_inDoubles]
  exact any_map_of_mem fun c hc => equalValue_inDoubles (Bool.eq_false_iff.mpr (h c hc))

theorem containsValue_inDoubles (h : v.items.any (clashes · b) = false) :
    containsValue v.inDoubles b.inDoubles = containsValue v b := by
  cases v with
  | array vs =>
    rw [List.any_eq_false] at h
    change (Json.array vs).inDoubles.items.any (equalValue · b.inDoubles) = vs.any (equalValue · b)
    rw [Json.items_inDoubles]
    exact any_map_of_mem fun c hc => equalValue_inDoubles (Bool.eq_false_iff.mpr (h c hc))
  | string s =>
    cases b with
    | integer n =>
      rw [Operand.inDoubles]
      split <;> rfl
    | _ => rfl
  | integer n =>
    rw [Json.inDoubles]
    split <;> rfl
  | _ => rfl

theorem compareNumbers_inDoubles (holds : Binary64 → Binary64 → Bool) (v : Json) (b : Operand) :
    compareNumbers holds v.inDoubles b.inDoubles = compareNumbers holds v b := by
  rw [compareNumbers, v.toDouble?_inDoubles, b.toDouble?_inDoubles, compareNumbers]

/-- What looks only at texts does not see the numbers. -/
theorem eq_inDoubles_of_texts {f : Json → Operand → α} {o : α}
    (h : ∀ v b, (∀ s t, v = .string s → b = .string t → False) → f v b = o) (v : Json) (b : Operand) :
    f v.inDoubles b.inDoubles = f v b := by
  have hv {s : String} (hs : v.inDoubles = .string s) : v = .string s := by
    cases v with
    | integer n =>
      rw [Json.inDoubles] at hs
      split at hs <;> cases hs
    | string => exact hs
    | null | bool | double | array | object => cases hs
  have hb {t : String} (ht : b.inDoubles = .string t) : b = .string t := by
    cases b with
    | integer n =>
      rw [Operand.inDoubles] at ht
      split at ht <;> cases ht
    | string => exact ht
    | null | boolean | double | array => cases ht
  by_cases htexts : ∃ s t, v = .string s ∧ b = .string t
  · obtain ⟨s, t, rfl, rfl⟩ := htexts
    rfl
  · have hwritten := h v.inDoubles b.inDoubles fun s t hs ht => htexts ⟨s, t, hv hs, hb ht⟩
    rw [hwritten, h v b fun s t hs ht => htexts ⟨s, t, hs, ht⟩]

theorem compareTexts_inDoubles (holds : List Char → List Char → Bool) (v : Json) (b : Operand) :
    compareTexts holds v.inDoubles b.inDoubles = compareTexts holds v b := by
  apply eq_inDoubles_of_texts (o := false)
  intro v b h
  unfold compareTexts
  split
  · exact (h _ _ rfl rfl).elim
  · rfl

theorem matchText_inDoubles (v : Json) (b : Operand) :
    matchText v.inDoubles b.inDoubles = matchText v b := by
  apply eq_inDoubles_of_texts (o := .ok false)
  intro v b h
  unfold matchText
  split
  · exact (h _ _ rfl rfl).elim
  · rfl

/-- A test does not tell the spellings of numbers apart, if none of them clash. -/
theorem Test.holds_inDoubles {t : Test} (h : clashesFor (.test t) v b = false) :
    t.holds v.inDoubles b.inDoubles = t.holds v b := by
  cases t with
  | equals => exact congrArg _ (equalValue_inDoubles h)
  | within => exact congrArg _ (isCandidate_inDoubles h)
  | contains => exact congrArg _ (containsValue_inDoubles h)
  | greater | greaterOrEqual | less | lessOrEqual => exact compareNumbers_inDoubles _ v b
  | startsWith | endsWith => exact congrArg _ (compareTexts_inDoubles _ v b)
  | fits => exact matchText_inDoubles v b

end

theorem anyHolds_inDoubles {t : Test} {b : Operand} {bag : List Json}
    (h : ∀ v ∈ bag, clashesFor (.test t) v b = false) :
    anyHolds t b.inDoubles (bag.map Json.inDoubles) = anyHolds t b bag := by
  induction bag with
  | nil => rfl
  | cons v vs ih =>
    rw [List.map_cons, anyHolds, anyHolds, Test.holds_inDoubles (h v List.mem_cons_self),
      ih fun w hw => h w (List.mem_cons_of_mem v hw)]

namespace Condition

theorem judge_inDoubles {o : Operator} {operand : Option Operand} {bag : List Json}
    (h : ∀ b ∈ operand, ∀ v ∈ bag, clashesFor o v b = false) :
    judge o (operand.map Operand.inDoubles) (bag.map Json.inDoubles) = judge o operand bag := by
  cases operand with
  | none =>
    cases o with
    | present | absent => simp [judge]
    | _ => rfl
  | some b =>
    have hbag := h b rfl
    cases o with
    | and | or | not => rfl
    | present | absent => simp [judge]
    | test t => exact anyHolds_inDoubles hbag
    | notEquals => exact congrArg (Except.ok !·) (any_map_of_mem fun v hv => equalValue_inDoubles (hbag v hv))
    | notWithin => exact congrArg (Except.ok !·) (any_map_of_mem fun v hv => isCandidate_inDoubles (hbag v hv))

end Condition

def Attribute.inDoubles (a : Attribute) : Attribute := { a with values := a.values.map Json.inDoubles }

/-- The same request with its exact whole numbers written as doubles. -/
def Request.inDoubles (r : Request) : Request :=
  { r with attributes := r.attributes.map Attribute.inDoubles }

theorem Request.bag_inDoubles (r : Request) (d : Designator) :
    r.inDoubles.bag d = (r.bag d).map Json.inDoubles := by
  have hselected : (Attribute.isSelectedBy · d) ∘ Attribute.inDoubles = (Attribute.isSelectedBy · d) := rfl
  simp only [bag, inDoubles, bagOf, List.filter_map, hselected, List.flatMap_map, List.map_flatMap]
  rfl

namespace Source

/-- The source that holds the same, its exact whole numbers written as doubles. -/
def inDoubles (s : Source) : Source where
  request := s.request.inDoubles
  finder := s.finder.map fun g d _ => (g d s.request).map (List.map Json.inDoubles)

theorem find_inDoubles (s : Source) (d : Designator) :
    (s.inDoubles.find d).result = (s.find d).result.map (List.map Json.inDoubles) := by
  obtain ⟨r, f⟩ := s
  cases f with
  | none => rfl
  | some g =>
    simp only [find, inDoubles, Option.map_some]
    cases g d r <;> rfl

theorem values_inDoubles (s : Source) (d : Designator) :
    (s.inDoubles.values d).result = (s.values d).result.map (List.map Json.inDoubles) := by
  have hbag : s.inDoubles.request.bag d = (s.request.bag d).map Json.inDoubles := s.request.bag_inDoubles d
  simp only [values, hbag, List.isEmpty_map]
  split
  · exact s.find_inDoubles d
  · rfl

theorem bag_inDoubles (s : Source) (d : Designator) :
    (s.inDoubles.bag d).result = (s.bag d).result.map (List.map Json.inDoubles) := by
  simp only [bag, Outcome.bind, s.values_inDoubles d]
  cases (s.values d).result with
  | error e => rfl
  | ok vs =>
    simp only [Except.map, List.isEmpty_map]
    split <;> rfl

end Source

namespace Condition

/-- The same condition with the exact whole numbers among its operands written as doubles. -/
def inDoubles (c : Condition) : Condition := c.mapOperands Operand.inDoubles

/-- The comparison finds a number in its bag that clashes with the operand. -/
def ClashesIn (s : Source) (c : Condition) : Prop :=
  ∃ d b bag, c.designator = some d ∧ c.operand = some b ∧ (s.bag d).result = .ok bag ∧
    ∃ v ∈ bag, clashesFor c.operator v b

theorem evaluateTest_inDoubles {s : Source} {c : Condition} (h : ¬ c.ClashesIn s) :
    (evaluateTest s c.operator c.designator c.operand).result =
      (evaluateTest s.inDoubles c.operator c.designator (c.operand.map Operand.inDoubles)).result := by
  cases hd : c.designator with
  | none => rfl
  | some d =>
    simp only [evaluateTest, Outcome.bind, s.bag_inDoubles d]
    cases hbag : (s.bag d).result with
    | error e => rfl
    | ok bag =>
      apply (judge_inDoubles _).symm
      intro b hb v hv
      apply Bool.eq_false_iff.mpr
      exact fun hclash => h ⟨d, b, bag, hd, hb, hbag, v, hv, hclash⟩

/-- A condition without clashes does not tell whole numbers from the same numbers written as doubles. -/
theorem evaluate_inDoubles {s : Source} {c : Condition} (h : ∀ p, c.Part p → ¬ p.ClashesIn s) :
    (c.evaluate s).result = (c.inDoubles.evaluate s.inDoubles).result :=
  evaluate_congr congruence_eq fun p hp _ => evaluateTest_inDoubles (h p hp)

theorem evaluate_eq_of_inDoubles {s s' : Source} (hs : s.inDoubles = s'.inDoubles) {c c' : Condition}
    (hc : c.inDoubles = c'.inDoubles) (h : ∀ p, c.Part p → ¬ p.ClashesIn s)
    (h' : ∀ p, c'.Part p → ¬ p.ClashesIn s') : (c.evaluate s).result = (c'.evaluate s').result := by
  rw [evaluate_inDoubles h, evaluate_inDoubles h', hs, hc]

theorem not_clashesIn_compare {s : Source} {t : Test} {d : Designator} {b : Operand}
    (h : ∀ bag, (s.bag d).result = .ok bag → ∀ v ∈ bag, clashesFor (.test t) v b = false) :
    ∀ p, (compare t d b).Part p → ¬ p.ClashesIn s := by
  rintro p hp ⟨d', b', bag, hd, hb, hbag, v, hv, hclash⟩
  cases hp with
  | nested hconn => cases hconn
  | self =>
    cases hd
    cases hb
    have hnone : clashesFor (.test t) v b = true := hclash
    rw [h bag hbag v hv] at hnone
    cases hnone

theorem clashesFor_of_isOrdering {t : Test} (ht : t.isOrdering) (v : Json) (b : Operand) :
    clashesFor (.test t) v b = false := by
  cases t with
  | greater | greaterOrEqual | less | lessOrEqual => rfl
  | equals | within | contains | startsWith | endsWith | fits => cases ht

end Condition

theorem Source.inDoubles_eq {f : Option Finder} {r r' : Request} (hr : r.inDoubles = r'.inDoubles)
    (hf : ∀ g ∈ f, ∀ d, (g d r).map (List.map Json.inDoubles) = (g d r').map (List.map Json.inDoubles)) :
    inDoubles ⟨r, f⟩ = inDoubles ⟨r', f⟩ := by
  simp only [inDoubles, hr]
  cases f with
  | none => rfl
  | some g => simp only [Option.map_some, hf g rfl]

/-- A value is a whole number, written as such or as a double. -/
def Json.Spells (v : Json) (m : Int) : Prop := v = .integer m ∨ v = .double (.ofInt m)

/-- An operand is a whole number, written as such or as a double. -/
def Operand.Spells (b : Operand) (n : Int64) : Prop := b = .integer n ∨ b = .double (.ofInt n.toInt)

section

variable {v : Json} {b : Operand} {m : Int} {n : Int64} (hv : v.Spells m) (hb : b.Spells n)

include hv hb

theorem compareNumbers_spelled (holds : Binary64 → Binary64 → Bool) :
    compareNumbers holds v b = .ok (holds (.ofInt m) (.ofInt n.toInt)) := by
  rcases hv with rfl | rfl <;> rcases hb with rfl | rfl <;> rfl

variable (hm : m.natAbs ≤ 2 ^ 53) (hn : n.toInt.natAbs ≤ 2 ^ 53)

include hm hn

/-- Exact whole numbers are equal however spelled, unless a double is compared with a whole operand. -/
theorem equalValue_spelled_iff :
    equalValue v b ↔ m = n.toInt ∧ ¬ (v = .double (.ofInt m) ∧ b = .integer n) := by
  have hnear : (Binary64.ofInt m).near (.ofInt n.toInt) ↔ m = n.toInt :=
    Binary64.near_ofInt_iff hm hn
  rcases hv with rfl | rfl <;> rcases hb with rfl | rfl <;> simp [equalValue, hnear]

end

namespace Condition

/-- How numbers are spelled counts only where numbers clash that are compared for equality. A clash makes equal
numbers unequal, and exact whole numbers clash only if a double is compared with a whole operand. -/
theorem spelling_counts_where_clashing {f : Option Finder} {r r' : Request} (hr : r.inDoubles = r'.inDoubles)
    (hf : ∀ g ∈ f, ∀ d, (g d r).map (List.map Json.inDoubles) = (g d r').map (List.map Json.inDoubles)) :
    (∀ c c' : Condition, c.inDoubles = c'.inDoubles → (∀ p, c.Part p → ¬ p.ClashesIn ⟨r, f⟩) →
      (∀ p, c'.Part p → ¬ p.ClashesIn ⟨r', f⟩) →
      (c.evaluate ⟨r, f⟩).result = (c'.evaluate ⟨r', f⟩).result) ∧
    (∀ t d (b b' : Operand), t.isOrdering → b.inDoubles = b'.inDoubles →
      ((compare t d b).evaluate ⟨r, f⟩).result = ((compare t d b').evaluate ⟨r', f⟩).result) ∧
    (∀ d bag, (Source.bag ⟨r, f⟩ d).result = .ok bag → ∀ b,
      ((compare .equals d b).evaluate ⟨r, f⟩).result =
        .ok (bag.any fun v => equalValue v.inDoubles b.inDoubles && !clashes v b)) ∧
    (∀ d v b m n, v.Spells m → b.Spells n → m.natAbs ≤ 2 ^ 53 → n.toInt.natAbs ≤ 2 ^ 53 →
      (Source.bag ⟨r, f⟩ d).result = .ok [v] →
      let outcome (t : Test) := ((compare t d b).evaluate ⟨r, f⟩).result
      outcome .lessOrEqual = .ok (m ≤ n.toInt) ∧ outcome .greaterOrEqual = .ok (n.toInt ≤ m) ∧
      (outcome .equals = .ok true ↔ (outcome .lessOrEqual = .ok true ∧ outcome .greaterOrEqual = .ok true) ∧
        ¬ (v = .double (.ofInt m) ∧ b = .integer n))) := by
  have hs := Source.inDoubles_eq hr hf
  refine ⟨fun c c' => evaluate_eq_of_inDoubles hs, ?_, ?_, ?_⟩
  · intro t d b b' ht hb
    have hc : (compare t d b).inDoubles = (compare t d b').inDoubles := by
      simp only [inDoubles, compare, mapOperands, Option.map_some, hb]
    exact evaluate_eq_of_inDoubles hs hc
      (not_clashesIn_compare fun _ _ v _ => clashesFor_of_isOrdering ht v b)
      (not_clashesIn_compare fun _ _ v _ => clashesFor_of_isOrdering ht v b')
  · intro d bag hbag b
    have htotal (v : Json) : Test.equals.holds v b =
        .ok (equalValue v.inDoubles b.inDoubles && !clashes v b) := congrArg _ (equalValue_eq v b)
    rw [compare_result hbag, anyHolds_of_total htotal]
  · intro d v b m n hv hb hm hn hbag outcome
    have houtcome (t : Test) : outcome t = t.holds v b := (compare_result hbag t b).trans (anyHolds_single t b v)
    have hle : outcome .lessOrEqual = .ok (m ≤ n.toInt) := by
      rw [houtcome, Test.holds, compareNumbers_spelled hv hb, Except.ok.injEq, Bool.eq_iff_iff,
        decide_eq_true_iff]
      exact Binary64.le_ofInt_iff hm hn
    have hge : outcome .greaterOrEqual = .ok (n.toInt ≤ m) := by
      rw [houtcome, Test.holds, compareNumbers_spelled hv hb, Except.ok.injEq, Bool.eq_iff_iff,
        decide_eq_true_iff]
      exact Binary64.le_ofInt_iff hn hm
    have hequals : outcome .equals = .ok true ↔ m = n.toInt ∧ ¬ (v = .double (.ofInt m) ∧ b = .integer n) := by
      rw [houtcome, Test.holds, Except.ok.injEq]
      exact equalValue_spelled_iff hv hb hm hn
    refine ⟨hle, hge, ?_⟩
    rw [hequals, hle, hge, Except.ok.injEq, Except.ok.injEq, decide_eq_true_iff, decide_eq_true_iff]
    exact and_congr_left' le_antisymm_iff

/-- A double and a whole number that may both be among whole numbers and doubles. -/
theorem spelling_counts_where_clashing_list :
    ((compare .within quota (.array [.double (.ofInt 3), .integer 4])).evaluate
      (ofQuota (.double (.ofInt 3)))).result = .ok true := by
  have hr : (ofQuota (.integer 3)).request.inDoubles = (ofQuota (.double (.ofInt 3))).request.inDoubles := rfl
  obtain ⟨halike, -⟩ := spelling_counts_where_clashing (f := none) hr (by simp)
  have hsame := halike (compare .within quota (.array [.integer 3, .integer 4]))
    (compare .within quota (.array [.double (.ofInt 3), .integer 4])) rfl
    (not_clashesIn_compare fun bag hbag v hv => ?_) (not_clashesIn_compare fun bag hbag v hv => ?_)
  · exact hsame.symm.trans (by decide +kernel)
  · cases hbag
    cases List.mem_singleton.mp hv
    decide +kernel
  · cases hbag
    cases List.mem_singleton.mp hv
    decide +kernel

/-- One as a double is not equal to one, though it is neither less nor greater. -/
theorem equals_tells_spellings_apart :
    let s := ofQuota (.integer 1)
    let s' := ofQuota (.double (.ofInt 1))
    let outcome (s : Source) (t : Test) := ((compare t quota (.integer 1)).evaluate s).result
    s.request.inDoubles = s'.request.inDoubles ∧
      outcome s .equals = .ok true ∧ outcome s' .equals = .ok false ∧
      outcome s' .lessOrEqual = .ok true ∧ outcome s' .greaterOrEqual = .ok true := by
  refine ⟨rfl, ?_⟩
  decide +kernel

end Condition

end Arbiter
