import Arbiter.Proofs.Json.Parsing
import Arbiter.Proofs.Json.Scanning
import Mathlib.Data.List.TakeWhile

/-! What is written of a value, on one line or on many, is read as that value, if its doubles are: whether the
numeral of a double stands for that double again is left to the numbers. -/

namespace Arbiter

theorem Decimal.ofDigits_digitValue (cs : List Char) :
    ofDigits (cs.map digitValue) = Nat.ofDigitChars 10 cs 0 := by
  rw [ofDigits, List.foldl_map, Nat.ofDigitChars_eq_foldl]
  refine congrArg (cs.foldl · 0) (funext fun n => funext fun c => ?_)
  rw [Nat.mul_comm, digitValue]

theorem takeDigits_toDigits (n : Nat) :
    takeDigits (Nat.toDigits 10 n) = ((Nat.toDigits 10 n).map digitValue, []) := by
  have hdigits : ∀ c ∈ Nat.toDigits 10 n, c.isDigit := fun c hc =>
    Nat.isDigit_of_mem_toDigits (by omega) (by omega) hc
  rw [takeDigits, List.takeWhile_eq_self_iff.2 hdigits, List.dropWhile_eq_nil_iff.2 hdigits]

/-- Only zero starts with a zero. -/
theorem exists_toDigits (n : Nat) :
    ∃ d ds, Nat.toDigits 10 n = Nat.digitChar d :: ds ∧ d < 10 ∧ (d = 0 → n = 0) := by
  induction n using Nat.base_induction 10 (by omega) with
  | single d hd => exact ⟨d, [], Nat.toDigits_of_lt_base hd, hd, id⟩
  | digit m k hk hm ih =>
    obtain ⟨d, ds, hdigits, hd, hzero⟩ := ih
    refine ⟨d, ds ++ Nat.toDigits 10 k, ?_, hd, fun h => by omega⟩
    rw [← Nat.toDigits_append_toDigits (by omega) hm hk, hdigits, List.cons_append]

namespace Json

/-- Whether the numeral that is written for a number is read as that number. -/
def Legible (v : Json) : Prop := (Numeral.Parts.ofChars? (scalar v).toList).bind (·.value?) = some v

instance (v : Json) : Decidable (Legible v) := inferInstanceAs (Decidable (_ = _))

namespace Numeral.Parts

/-- The digits of a whole number are a numeral with nothing after them. -/
theorem unsigned?_toDigits (negative : Bool) (n : Nat) :
    unsigned? negative (Nat.toDigits 10 n) =
      some ⟨negative, (Nat.toDigits 10 n).map digitValue, [], none⟩ := by
  obtain ⟨d, ds, hdigits, hd, hzero⟩ := exists_toDigits n
  have hvalue : digitValue (Nat.digitChar d) = d := Nat.toNat_digitChar_sub_48_of_lt_ten hd
  rw [unsigned?, takeDigits_toDigits]
  cases d with
  | zero =>
    rw [hzero rfl]
    rfl
  | succ d =>
    rw [hdigits, List.map_cons, hvalue]
    rfl

end Numeral.Parts

theorem ofDigits_toDigits (n : Nat) : Decimal.ofDigits ((Nat.toDigits 10 n).map digitValue) = n := by
  rw [Decimal.ofDigits_digitValue, Nat.ofDigitChars_ten_toDigits]

theorem legible_natural {n : Nat} (h : fitsUnsigned 64 n) : Legible (integer n) := by
  have hhead : (Nat.toDigits 10 n).head? ≠ some '-' := by
    intro h
    have hdigit := Nat.isDigit_of_mem_toDigits (by omega) (by omega) (List.mem_of_head? h)
    exact absurd hdigit (by decide)
  have hchars : (scalar (integer n)).toList = Nat.toDigits 10 n := by
    rw [scalar, Int.toString_eq_repr, Int.repr_eq_if, if_pos (Int.natCast_nonneg n), Int.toNat_natCast,
      Nat.toList_repr]
  rw [Legible, hchars, Numeral.Parts.ofChars?_of_ne hhead, Numeral.Parts.unsigned?_toDigits, Option.bind_some]
  simp [Numeral.Parts.value?, ofDigits_toDigits, h]

theorem legible_negative {n : Nat} (hn : 0 < n) (h : fitsSigned 64 (-n)) : Legible (integer (-n)) := by
  have hchars : (scalar (integer (-n))).toList = '-' :: Nat.toDigits 10 n := by
    rw [scalar, Int.toString_eq_repr, Int.repr_eq_if, if_neg (by omega), Int.neg_neg, Int.toNat_natCast,
      String.toList_append, Nat.toList_repr]
    rfl
  rw [Legible, hchars, Numeral.Parts.ofChars?_minus, Numeral.Parts.unsigned?_toDigits, Option.bind_some]
  simp [Numeral.Parts.value?, ofDigits_toDigits, h, hn]

theorem legible_integer {n : Int} (h : (integer n).hasNumeral) : Legible (integer n) := by
  simp only [hasNumeral, fitsSigned, fitsUnsigned, Bool.or_eq_true, decide_eq_true_eq, Nat.pow_eq] at h
  by_cases hn : 0 ≤ n
  · obtain ⟨m, rfl⟩ := Int.eq_ofNat_of_zero_le hn
    exact legible_natural (decide_eq_true (by simp only [Nat.pow_eq]; omega))
  · obtain ⟨m, hm⟩ := Int.eq_ofNat_of_zero_le (a := -n) (by omega)
    have hneg : n = -(m : Int) := by omega
    rw [hneg]
    exact legible_negative (by omega) (decide_eq_true (by simp only [Nat.pow_eq]; omega))

namespace Token

theorem isStop_of_isBlank {c : Char} (h : isBlank c) : isStop c := by
  simp only [isBlank, Bool.or_eq_true, decide_eq_true_eq] at h
  obtain ((rfl | rfl) | rfl) | rfl := h <;> rfl

theorem spells_legible {v : Json} (h : Legible v) : Spells (scalar v).toList [.number (some v)] := by
  obtain ⟨p, hp, hv⟩ := Option.bind_eq_some_iff.1 h
  rw [← hv]
  exact spells_numeral hp

/-- Parts between brackets and commas, with blanks around them. -/
theorem spells_block (first last : Char) {topen tclose : Token}
    (hfirst : ∀ before, between before first = some ⟨.between, topen :: before⟩)
    (hlast : ∀ before, between before last = some ⟨.between, tclose :: before⟩) (hstop : isStop last)
    (gap gap' gap'' : List Char) (hgap : ∀ c ∈ gap, isBlank c) (hgap' : ∀ c ∈ gap', isBlank c)
    (hgap'' : ∀ c ∈ gap'', isBlank c) {parts : List (List Char)} {tss : List (List Token)}
    (h : List.Forall₂ Spells parts tss) :
    Spells (first :: (gap ++ ((',' :: gap').intercalate parts ++ (gap'' ++ [last]))))
      (topen :: ([Token.comma].intercalate tss ++ [tclose])) := by
  have hend : Spells (gap'' ++ [last]) [tclose] := spells_blanks hgap'' (spells_cons hlast spells_nil)
  refine spells_cons hfirst (spells_blanks hgap (spells_intercalate hgap' h hend ?_))
  cases gap'' with
  | nil => exact ⟨last, rfl, hstop⟩
  | cons c _ => exact ⟨c, rfl, isStop_of_isBlank (hgap'' c List.mem_cons_self)⟩

end Token

open Token

theorem compactItems_eq (items : List Json) : compactItems items = items.map compact := by
  induction items with
  | nil => rfl
  | cons x xs ih => rw [compactItems, ih, List.map_cons]

theorem compactMembers_eq (members : List (String × Json)) :
    compactMembers members = members.map fun m => quote m.1 ++ ":" ++ m.2.compact := by
  induction members with
  | nil => rfl
  | cons m ms ih => rw [compactMembers, ih, List.map_cons]

theorem prettyItems_eq (indent : String) (items : List Json) :
    prettyItems indent items = items.map (·.pretty indent) := by
  induction items with
  | nil => rfl
  | cons x xs ih => rw [prettyItems, ih, List.map_cons]

theorem prettyMembers_eq (indent : String) (members : List (String × Json)) :
    prettyMembers indent members = members.map fun m => quote m.1 ++ ": " ++ m.2.pretty indent := by
  induction members with
  | nil => rfl
  | cons m ms ih => rw [prettyMembers, ih, List.map_cons]

theorem spells_scalar {v : Json} (h : ∀ n ∈ v.numbers, Legible n) (harray : ∀ items, v ≠ array items)
    (hobject : ∀ members, v ≠ object members) : Spells (scalar v).toList (tokens v) := by
  cases v with
  | null => exact spells_word (w := ['l', 'l', 'u', 'n']) rfl fun _ => rfl
  | bool b =>
    cases b with
    | true => exact spells_word (w := ['e', 'u', 'r', 't']) rfl fun _ => rfl
    | false => exact spells_word (w := ['e', 's', 'l', 'a', 'f']) rfl fun _ => rfl
  | integer n => exact spells_legible (h _ List.mem_cons_self)
  | double x => exact spells_legible (h _ List.mem_cons_self)
  | string s => exact spells_quote s
  | array items => exact absurd rfl (harray items)
  | object members => exact absurd rfl (hobject members)

/-- A name, a colon with blanks after it, and a value. -/
theorem spells_member {cs : List Char} {ts : List Token} (gap : List Char) (hgap : ∀ c ∈ gap, isBlank c)
    (h : Spells cs ts) (k : String) :
    Spells ((quote k).toList ++ ':' :: (gap ++ cs)) (.string (some k) :: .colon :: ts) :=
  (spells_quote k).append (spells_cons (fun _ => rfl) (spells_blanks hgap h)) ⟨':', rfl, rfl⟩

theorem forall₂_map {f : α → List Char} {g : α → List Token} {xs : List α}
    (h : ∀ x ∈ xs, Spells (f x) (g x)) :
    List.Forall₂ Spells (xs.map f) (xs.map g) := by
  rw [List.forall₂_map_left_iff, List.forall₂_map_right_iff, List.forall₂_same]
  exact h

theorem spells_compact {j : Json} (h : ∀ v ∈ j.numbers, Legible v) : Spells j.compact.toList (tokens j) := by
  induction j using Json.induct with
  | null | bool | integer | double | string => exact spells_scalar h (by simp) (by simp)
  | array items ih =>
    have hitems := forall_numbers_array.1 h
    have hblock := spells_block '[' ']' (fun _ => rfl) (fun _ => rfl) rfl [] [] []
      (by simp) (by simp) (by simp) (forall₂_map fun x hx => ih x hx (hitems x hx))
    rw [compact, compactItems_eq, tokens, tokensOfItems_eq]
    simpa [String.toList_intercalate, Function.comp_def] using hblock
  | object members ih =>
    have hmembers := forall_numbers_object.1 h
    have hblock := spells_block '\x7b' '\x7d' (fun _ => rfl) (fun _ => rfl) rfl [] [] []
      (by simp) (by simp) (by simp)
      (forall₂_map fun m hm => spells_member [] (by simp) (ih m hm (hmembers m hm)) m.1)
    rw [compact, compactMembers_eq, tokens, tokensOfMembers_eq]
    simpa [String.toList_intercalate, Function.comp_def] using hblock

theorem spells_lines (first last : Char) {topen tclose : Token}
    (hfirst : ∀ before, between before first = some ⟨.between, topen :: before⟩)
    (hlast : ∀ before, between before last = some ⟨.between, tclose :: before⟩) (hstop : isStop last)
    {indent : String} (hindent : ∀ c ∈ indent.toList, isBlank c) {lines : List String}
    {tss : List (List Token)} (h : List.Forall₂ Spells (lines.map fun l => (indent ++ "  " ++ l).toList) tss) :
    Spells (block (String.singleton first) (String.singleton last) indent lines).toList
      (topen :: ([Token.comma].intercalate tss ++ [tclose])) := by
  cases lines with
  | nil =>
    have hblock := spells_block first last hfirst hlast hstop [] [] [] (by simp) (by simp) (by simp) h
    simpa [block] using hblock
  | cons l ls =>
    have hblock := spells_block first last hfirst hlast hstop ['\n'] ['\n'] ('\n' :: indent.toList)
      (by simp [isBlank]) (by simp [isBlank]) (List.forall_mem_cons.2 ⟨rfl, hindent⟩) h
    have htext : (block (String.singleton first) (String.singleton last) indent (l :: ls)).toList =
        first :: (['\n'] ++ ([',', '\n'].intercalate ((l :: ls).map fun l => (indent ++ "  " ++ l).toList) ++
          ('\n' :: indent.toList ++ [last]))) := by
      rw [block, if_neg (by simp), String.toList_append, String.toList_append, String.toList_append,
        String.toList_append, String.toList_append, String.toList_intercalate, List.map_map]
      simp only [String.toList_singleton, List.append_assoc]
      rfl
    rwa [htext]

theorem isBlank_deeper {indent : String} (h : ∀ c ∈ indent.toList, isBlank c) :
    ∀ c ∈ (indent ++ "  ").toList, isBlank c := by
  rw [String.toList_append]
  exact List.forall_mem_append.2 ⟨h, by simp [isBlank]⟩

theorem spells_pretty {j : Json} (h : ∀ v ∈ j.numbers, Legible v) {indent : String}
    (hindent : ∀ c ∈ indent.toList, isBlank c) : Spells (j.pretty indent).toList (tokens j) := by
  induction j using Json.induct generalizing indent with
  | null | bool | integer | double | string => exact spells_scalar h (by simp) (by simp)
  | array items ih =>
    have hitems := forall_numbers_array.1 h
    have hdeeper := isBlank_deeper hindent
    have hlines : List.Forall₂ Spells
        ((prettyItems (indent ++ "  ") items).map fun l => (indent ++ "  " ++ l).toList)
        (items.map tokens) := by
      rw [prettyItems_eq, List.map_map]
      refine forall₂_map fun x hx => ?_
      rw [Function.comp_apply, String.toList_append]
      exact spells_blanks hdeeper (ih x hx (hitems x hx) hdeeper)
    rw [pretty, tokens, tokensOfItems_eq]
    exact spells_lines '[' ']' (fun _ => rfl) (fun _ => rfl) rfl hindent hlines
  | object members ih =>
    have hmembers := forall_numbers_object.1 h
    have hdeeper := isBlank_deeper hindent
    have hlines : List.Forall₂ Spells
        ((prettyMembers (indent ++ "  ") members).map fun l => (indent ++ "  " ++ l).toList)
        (members.map fun m => .string (some m.1) :: .colon :: tokens m.2) := by
      rw [prettyMembers_eq, List.map_map]
      refine forall₂_map fun m hm => ?_
      have hmember := spells_member [' '] (by simp [isBlank]) (ih m hm (hmembers m hm) hdeeper) m.1
      have htext : (quote m.1 ++ ": " ++ m.2.pretty (indent ++ "  ")).toList =
          (quote m.1).toList ++ ':' :: ([' '] ++ (m.2.pretty (indent ++ "  ")).toList) := by
        rw [String.toList_append, String.toList_append, List.append_assoc]
        rfl
      rw [Function.comp_apply, String.toList_append, htext]
      exact spells_blanks hdeeper hmember
    rw [pretty, tokens, tokensOfMembers_eq]
    exact spells_lines '\x7b' '\x7d' (fun _ => rfl) (fun _ => rfl) rfl hindent hlines

/-- A text that spells the tokens of a value is read as the tree of that value. -/
theorem ofText?_of_spells {j : Json} {text : String} (h : Spells text.toList (tokens j)) :
    Tree.ofText? text = some (.ofJson j) := by
  have hscan := h [] [] (by simp)
  rw [List.append_nil] at hscan
  have htokens : Token.ofText? text = some (tokens j) := by
    have hrun : Token.ofText? text = (scan? {} text.toList).map List.reverse := by
      rw [Token.ofText?, scan?]
      cases text.toList.foldlM step {} with
      | none => rfl
      | some s => cases h : finish? s <;> simp [h]
    rw [hrun, show scan? {} text.toList = _ from hscan]
    simp [scan?, finish?]
  rw [Tree.ofText?, htokens, Option.bind_some, Tree.ofTokens?_tokens]

end Json

end Arbiter
