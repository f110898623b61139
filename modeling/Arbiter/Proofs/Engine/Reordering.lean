import Arbiter.Proofs.Engine.Locality
import Arbiter.Proofs.Reordering

namespace Arbiter

namespace Engine

/-- An engine answers alike, if none of the conditions it may look at asks for a torn bag. -/
theorem answersAlike_of_reorders {e : Engine} (he : e.Reachable) {r r' : Request}
    (hbag : ∀ d, SameBag (Source.bag ⟨r, e.finder⟩ d).result (Source.bag ⟨r', e.finder⟩ d).result)
    (hc : ∀ c, e.Poses c → ∀ p, c.Part p → ¬ p.TornIn ⟨r, e.finder⟩) : e.AnswersAlike e r r' := by
  intro t t'
  obtain ⟨h, -⟩ := evaluate_spec he.consistent t r
  obtain ⟨h', -⟩ := evaluate_spec he.consistent t' r'
  rw [h, h']
  apply respond_of_agreement ⟨rfl, rfl, rfl⟩ rfl (fun _ _ => rfl)
  intro c hposed
  rcases Condition.evaluate_sameUnless hbag c with hsame | ⟨⟨p, hp, ht⟩, -⟩
  · exact hsame
  · exact absurd ht (hc c hposed p hp)

/-- The order in which a request lists its attributes and their values counts only for comparisons that ask
for a torn bag, and these are comparisons by size. It never turns a truth value into the other: a torn
bag either passes or fails for a value that is no number. -/
theorem order_counts_where_torn {f : Option Finder} {r r' : Request} (hr : r.Reorders r')
    (hf : ∀ g ∈ f, ∀ d, SameBag (g d r) (g d r')) :
    (∀ c : Condition, SameUnless (∃ p, c.Part p ∧ p.TornIn ⟨r, f⟩)
      (c.evaluate ⟨r, f⟩).result (c.evaluate ⟨r', f⟩).result) ∧
    (∀ d bag, (Source.bag ⟨r, f⟩ d).result = .ok bag → ∀ t b, ¬ t.Torn b bag →
      (((Condition.compare t d b).evaluate ⟨r, f⟩).result = .ok true ↔
        ∃ a ∈ bag, t.holds a b = .ok true)) ∧
    (∀ (t : Test) (b : Operand) bag, t.Torn b bag →
      t.isOrdering ∧ (∃ a ∈ bag, a.toDouble?.isSome) ∧ ∃ a ∈ bag, a.toDouble? = none) ∧
    (∀ e : Engine, e.Reachable → e.finder = f →
      (∀ c, e.Poses c → ∀ p, c.Part p → ¬ p.TornIn ⟨r, f⟩) → e.AnswersAlike e r r') := by
  have hbag := Source.bag_sameBag hr hf
  refine ⟨Condition.evaluate_sameUnless hbag, ?_, fun _ _ _ => Test.Torn.mixed, ?_⟩
  · intro d bag hd t b ht
    rw [← anyHolds_eq_true_iff ht, Condition.compare_result hd]
  · rintro e he rfl hc
    exact answersAlike_of_reorders he hbag hc

def level : Designator := { category := .resource, attributeId := "level" }

def ofLevels (ls : List Json) : Attribute :=
  { category := .resource, attributeId := "level", values := ls }

/-- Permits above level three. -/
def aboveThree : Policy :=
  { Policy.always "p" .permit [] with target := some (.compare .greater level (.integer 3)) }

theorem eq_above_of_poses {e : Engine} (h : e.store.nodes = [.policy aboveThree]) {c p : Condition}
    (hc : e.Poses c) (hp : c.Part p) : p = .compare .greater level (.integer 3) := by
  obtain ⟨m, ⟨n, hn, -, hm⟩, hc⟩ := hc
  rw [h] at hn
  obtain rfl := List.mem_singleton.mp hn
  cases hm
  obtain rfl := List.mem_singleton.mp hc
  cases hp with
  | self => rfl
  | nested hconn => cases hconn

/-- Two levels and a role, told in either order. -/
theorem order_counts_where_torn_levels :
    let e : Engine := { settings := {}, store := ⟨[.policy aboveThree], 1⟩, telemetry := some {} }
    let role : Attribute := { category := .subject, attributeId := "role", values := [.string "admin"] }
    let r : Request := { id := "a", attributes := [role, ofLevels [.integer 2, .integer 5]] }
    let r' : Request := { id := "b", attributes := [ofLevels [.integer 5, .integer 2], role] }
    (e.evaluate {} r).1.response.decision = .permit ∧ e.AnswersAlike e r r' := by
  intro e role r r'
  have he : e.Reachable := ⟨{ policies := [.policy aboveThree] }, e, [], rfl, rfl⟩
  have hr : r.Reorders r' := by
    refine ⟨[role, ofLevels [.integer 5, .integer 2]], .cons ?_ (.cons ?_ .nil), .swap _ _ _⟩
    · exact ⟨rfl, rfl, rfl, rfl, .refl _⟩
    · exact ⟨rfl, rfl, rfl, rfl, .swap _ _ _⟩
  obtain ⟨-, -, hmixed, hanswers⟩ := order_counts_where_torn (f := none) hr (by simp)
  refine ⟨by decide +kernel, hanswers e he rfl ?_⟩
  rintro c hc p hp ⟨t, d, b, bag, -, hd, -, hbag, ht⟩
  obtain rfl := eq_above_of_poses rfl hc hp
  obtain rfl := Option.some.inj hd
  obtain rfl : [.integer 2, .integer 5] = bag := Except.ok.inj hbag
  obtain ⟨-, -, a, ha, hnone⟩ := hmixed t b _ ht
  rcases List.mem_pair.mp ha with rfl | rfl <;> cases hnone

/-- A level above three is not found behind a level that is no number. -/
theorem order_counts_behind_text :
    let c := Condition.compare .greater level (.integer 3)
    let r : Request := { attributes := [ofLevels [.integer 5, .string "x"]] }
    let r' : Request := { attributes := [ofLevels [.string "x", .integer 5]] }
    r.Reorders r' ∧ (c.evaluate ⟨r, none⟩).result = .ok true ∧
      (c.evaluate ⟨r', none⟩).result = .error .notNumeric := by
  intro c r r'
  have hr : r.Reorders r' :=
    ⟨r'.attributes, .cons ⟨rfl, rfl, rfl, rfl, .swap _ _ _⟩ .nil, .refl _⟩
  refine ⟨hr, ?_, rfl⟩
  decide +kernel

end Engine

end Arbiter
