import Arbiter.Proofs.Json.Casting
import Arbiter.Proofs.Json.Stored
import Arbiter.Proofs.Number.Shortest

namespace Arbiter

namespace Json

open Token (isStop isNumeral)

/-- Whether the doubles in a value are finite numbers of the format, as all are that numerals are read as. -/
def Genuine (j : Json) : Prop := ∀ v ∈ j.numbers, ∀ x, v = double x → x.isFinite ∧ x.InFormat

theorem Genuine.exists_units {x : Binary64} (h : (double x).Genuine) :
    ∃ negative u, x = .finite negative u ∧ Binary64.IsCount u := by
  obtain ⟨hfinite, hx⟩ := h _ List.mem_cons_self x rfl
  cases hx with
  | finite negative hu => exact ⟨negative, _, rfl, hu⟩
  | infinite | nan => cases hfinite

theorem IsRead.genuine {v : Json} (h : v.IsRead) : v.Genuine := by
  obtain ⟨p, h⟩ := h
  unfold Numeral.Parts.value? at h
  extract_lets n double at h
  have hdouble : double = some v → v.Genuine := by
    intro hv
    dsimp only [double] at hv
    split at hv
    · rename_i s u hread
      cases hv
      intro w hw x hx
      obtain rfl := List.mem_singleton.mp hw
      cases hx
      exact ⟨rfl, hread ▸ Decimal.inFormat_scaled _⟩
    · cases hv
  have hwhole (m : Int) : (integer m).Genuine := by
    intro w hw x hx
    obtain rfl := List.mem_singleton.mp hw
    cases hx
  split at h
  · exact hdouble h
  split at h
  · split at h
    · cases h
      exact hwhole _
    · exact hdouble h
  · split at h
    · cases h
      exact hwhole _
    · exact hdouble h

/-- The doubles that are read from a text are all numbers of the format. -/
theorem genuine_of_read? {s : Shape} {text : String} {j : Json} (h : read? s text = some j) : j.Genuine := by
  intro v hv x hx
  subst hx
  exact ((fits_read? h).numbers _ hv).genuine _ List.mem_cons_self x rfl

theorem Genuine.free {j : Json} (h : j.Genuine) : j.free.Genuine :=
  (FitsWith.free ⟨h, Nat.le_refl j.depth⟩).numbers

/-- What an escape looks like: a character itself, or one of those behind a backslash. -/
inductive Escaped (c : Char) : List Char → Prop
  | plain : c ≠ '"' → c ≠ '\\' → Escaped c [c]
  | simple {d} : d ≠ 'u' → Token.simpleEscape? d = some c → Escaped c ['\\', d]
  | code : c.toNat < 32 → Escaped c ['\\', 'u', '0', '0', hexDigit (c.toNat / 16), hexDigit (c.toNat % 16)]

theorem escaped_escape (c : Char) : Escaped c (escape c) := by
  unfold escape
  split_ifs with hquote hslash hnewline hreturn htab hback hfeed hcontrol
  · subst hquote
    exact .simple (by decide) rfl
  · subst hslash
    exact .simple (by decide) rfl
  · subst hnewline
    exact .simple (by decide) rfl
  · subst hreturn
    exact .simple (by decide) rfl
  · subst htab
    exact .simple (by decide) rfl
  · subst hback
    exact .simple (by decide) rfl
  · subst hfeed
    exact .simple (by decide) rfl
  · exact .code hcontrol
  · exact .plain hquote hslash

theorem Escaped.append_inj {c d : Char} {cs ds rest rest' : List Char} (hc : Escaped c cs) (hd : Escaped d ds)
    (h : cs ++ rest = ds ++ rest') : c = d ∧ rest = rest' := by
  cases hc with
  | plain hquote hslash =>
    cases hd with
    | plain => exact List.cons.inj h
    | simple => exact absurd (List.cons.inj h).1 hslash
    | code => exact absurd (List.cons.inj h).1 hslash
  | simple hu hc =>
    cases hd with
    | plain hquote hslash => exact absurd (List.cons.inj h).1.symm hslash
    | simple hu' hd =>
      obtain ⟨rfl, hrest⟩ := List.cons.inj (List.cons.inj h).2
      exact ⟨Option.some.inj (hc.symm.trans hd), hrest⟩
    | code => exact absurd (List.cons.inj (List.cons.inj h).2).1 hu
  | code hcontrol =>
    cases hd with
    | plain hquote hslash => exact absurd (List.cons.inj h).1.symm hslash
    | simple hu => exact absurd (List.cons.inj (List.cons.inj h).2).1.symm hu
    | code hcontrol' =>
      simp only [List.cons_append, List.nil_append, List.cons.injEq, true_and] at h
      obtain ⟨hhigh, hlow, hrest⟩ := h
      have hdigit {n m : Nat} (hn : n < 16) (hm : m < 16) (h : hexDigit n = hexDigit m) : n = m := by
        have hvalue := congrArg hexValue? h
        rw [Token.hexValue?_hexDigit n hn, Token.hexValue?_hexDigit m hm] at hvalue
        exact Option.some.inj hvalue
      have h16 := hdigit (by omega) (by omega) hhigh
      have h1 := hdigit (by omega) (by omega) hlow
      exact ⟨Char.toNat_inj.mp (by omega), hrest⟩

theorem Escaped.head?_ne {c : Char} {cs rest : List Char} (h : Escaped c cs) :
    (cs ++ rest).head? ≠ some '"' := by
  cases h with
  | plain hquote => exact fun h => hquote (Option.some.inj h)
  | simple => exact fun h => absurd (Option.some.inj h) (by decide)
  | code => exact fun h => absurd (Option.some.inj h) (by decide)

/-- The closing quote is the first that stands for itself. -/
theorem escapes_append_inj {cs ds rest rest' : List Char}
    (h : cs.flatMap escape ++ '"' :: rest = ds.flatMap escape ++ '"' :: rest') :
    cs = ds ∧ rest = rest' := by
  induction cs generalizing ds with
  | nil =>
    cases ds with
    | nil => exact ⟨rfl, (List.cons.inj h).2⟩
    | cons d ds =>
      rw [List.flatMap_cons, List.append_assoc] at h
      exact absurd (congrArg List.head? h).symm (escaped_escape d).head?_ne
  | cons c cs ih =>
    cases ds with
    | nil =>
      rw [List.flatMap_cons, List.append_assoc] at h
      exact absurd (congrArg List.head? h) (escaped_escape c).head?_ne
    | cons d ds =>
      rw [List.flatMap_cons, List.flatMap_cons, List.append_assoc, List.append_assoc] at h
      obtain ⟨rfl, hrest⟩ := (escaped_escape c).append_inj (escaped_escape d) h
      obtain ⟨rfl, rfl⟩ := ih hrest
      exact ⟨rfl, rfl⟩

theorem quote_append_inj {s t : String} {rest rest' : List Char}
    (h : (quote s).toList ++ rest = (quote t).toList ++ rest') : s = t ∧ rest = rest' := by
  simp only [quote, String.toList_ofList, List.cons_append, List.append_assoc, List.nil_append,
    List.cons.injEq, true_and] at h
  obtain ⟨hchars, hrest⟩ := escapes_append_inj h
  exact ⟨String.toList_inj.mp hchars, hrest⟩

theorem isNumeral_of_decimal {cs : List Char} {d : Decimal} (h : Decimal.ofChars? cs = some d) :
    ∀ c ∈ cs, isNumeral c := by
  have hread {tail : List Char} {p : Prop} [Decidable p] {f : Option Int → Option Decimal}
      (h : (if p then none else (Arbiter.Numeral.exponent? tail).bind f) = some d) :
      ∀ c ∈ tail, isNumeral c := by
    split at h
    · cases h
    · obtain ⟨e, he, -⟩ := Option.bind_eq_some_iff.mp h
      exact Numeral.isNumeral_of_exponent? he
  apply Numeral.isNumeral_of_signed
  apply Numeral.isNumeral_of_takeDigits
  unfold Decimal.ofChars? at h
  dsimp only at h
  generalize takeDigits (Arbiter.Numeral.signed cs).2 = taken at h ⊢
  obtain ⟨whole, rest⟩ := taken
  dsimp only at h ⊢
  split at h
  · exact List.forall_mem_cons.mpr ⟨rfl, Numeral.isNumeral_of_takeDigits (hread h)⟩
  · exact hread h

theorem toList_integer (n : Int) :
    (scalar (integer n)).toList = minus (decide (n < 0)) (Nat.toDigits 10 n.natAbs) := by
  rw [scalar, Int.toString_eq_repr, Int.repr_eq_if]
  by_cases hn : 0 ≤ n
  · rw [if_pos hn, Nat.toList_repr, decide_eq_false (by omega)]
    exact congrArg _ (by omega)
  · rw [if_neg hn, String.toList_append, Nat.toList_repr, decide_eq_true (by omega)]
    exact congrArg (fun m => '-' :: Nat.toDigits 10 m) (by omega)

/-- The numeral of a whole number has digits only, and a sign. -/
theorem isDigit_integer (n : Int) : ∀ c ∈ (scalar (integer n)).toList, c.isDigit ∨ c = '-' := by
  have hdigits : ∀ c ∈ Nat.toDigits 10 n.natAbs, c.isDigit ∨ c = '-' := fun c hc =>
    .inl (Nat.isDigit_of_mem_toDigits (by omega) (by omega) hc)
  rw [toList_integer]
  cases decide (n < 0) with
  | false => exact hdigits
  | true => exact List.forall_mem_cons.mpr ⟨.inr rfl, hdigits⟩

theorem integer_inj {n m : Int} (h : scalar (integer n) = scalar (integer m)) : n = m := by
  have hsigned (n : Int) : Arbiter.Numeral.signed (scalar (integer n)).toList =
      (decide (n < 0), Nat.toDigits 10 n.natAbs) := by
    obtain ⟨d, ds, hdigits, -, -⟩ := exists_toDigits n.natAbs
    have hdigit : (Nat.digitChar d).isDigit :=
      Nat.isDigit_of_mem_toDigits (by omega) (by omega) (hdigits ▸ List.mem_cons_self)
    rw [toList_integer, hdigits, signed_minus _ hdigit]
  have hparts := hsigned n
  rw [h, hsigned m] at hparts
  obtain ⟨hsign, hdigits⟩ := Prod.mk.inj hparts
  have hvalue := congrArg (Nat.ofDigitChars 10 · 0) hdigits
  rw [Nat.ofDigitChars_ten_toDigits, Nat.ofDigitChars_ten_toDigits] at hvalue
  have hnegative : m < 0 ↔ n < 0 := decide_eq_decide.mp hsign
  omega

/-- That of a double has a point or an exponent. -/
theorem exists_mark (u : Nat) : ∃ c ∈ doubleLayout.body u, c = '.' ∨ c = 'e' := by
  have hplace (d : Digits) : '.' ∈ doubleLayout.place d := by
    unfold NumberLayout.place
    dsimp only
    split
    · simp [doubleLayout]
    · split <;> simp
  have hpower (d : Digits) : 'e' ∈ NumberLayout.power d := by
    unfold NumberLayout.power
    exact List.mem_append_right _ List.mem_cons_self
  unfold NumberLayout.body
  split
  · exact ⟨'.', List.mem_cons_of_mem _ List.mem_cons_self, .inl rfl⟩
  · dsimp only [doubleLayout]
    split
    · exact ⟨'.', hplace _, .inl rfl⟩
    · exact ⟨'e', hpower _, .inr rfl⟩

theorem scalar_double (negative : Bool) (u : Nat) :
    scalar (double (.finite negative u)) = doubleLayout.write (.finite negative u) := by
  rw [scalar, if_pos (show (Binary64.finite negative u).isFinite = true from rfl)]

theorem toList_double (negative : Bool) (u : Nat) :
    (scalar (double (.finite negative u))).toList = minus negative (doubleLayout.body u) := by
  rw [scalar_double, NumberLayout.toList_write]

theorem mem_minus {negative : Bool} {c : Char} {cs : List Char} (h : c ∈ cs) : c ∈ minus negative cs := by
  cases negative with
  | false => exact h
  | true => exact List.mem_cons_of_mem '-' h

/-- No whole number is written like a double. -/
theorem integer_ne_double (n : Int) (negative : Bool) (u : Nat) :
    scalar (integer n) ≠ scalar (double (.finite negative u)) := by
  intro h
  obtain ⟨c, hc, hmark⟩ := exists_mark u
  have hmem : c ∈ (scalar (integer n)).toList := by
    rw [h, toList_double]
    exact mem_minus hc
  have hdigit := isDigit_integer n c hmem
  rcases hmark with rfl | rfl <;> simp at hdigit

theorem double_inj {negative negative' : Bool} {u u' : Nat} (hu : Binary64.IsCount u)
    (hu' : Binary64.IsCount u')
    (h : scalar (double (.finite negative u)) = scalar (double (.finite negative' u'))) :
    Binary64.finite negative u = .finite negative' u' := by
  have hread := doubleLayout.nearest_write negative hu
  have hread' := doubleLayout.nearest_write negative' hu'
  rw [← scalar_double] at hread hread'
  rw [h, hread'] at hread
  exact (Option.some.inj hread).symm

/-- The values that are written as words. -/
inductive IsWord : Json → Prop
  | null : IsWord null
  | bool (b : Bool) : IsWord (bool b)

/-- The values that are written as numerals. -/
inductive IsNumber : Json → Prop
  | integer (n : Int) : IsNumber (integer n)
  | double (x : Binary64) : IsNumber (double x)

/-- What marks a value that is not a word or a numeral. -/
def opening? : Json → Option Char
  | string _ => some '"'
  | array _ => some '['
  | object _ => some '\x7b'
  | null | bool _ | integer _ | double _ => none

theorem isNumeral_number {v : Json} (hv : v.Genuine) (hn : v.IsNumber) :
    ∀ c ∈ (scalar v).toList, isNumeral c := by
  cases hn with
  | integer n =>
    intro c hc
    rcases isDigit_integer n c hc with hdigit | rfl
    · exact Numeral.isNumeral_of_isDigit hdigit
    · rfl
  | double x =>
    obtain ⟨negative, u, rfl, hu⟩ := hv.exists_units
    have hread := doubleLayout.nearest_write negative hu
    rw [← scalar_double] at hread
    obtain ⟨d, hd, -⟩ := Option.map_eq_some_iff.mp hread
    exact isNumeral_of_decimal hd

/-- Words and numerals go on to the next stop. -/
theorem isStop_scalar {v : Json} (hv : v.Genuine) (h : v.opening? = none) :
    ∀ c ∈ (scalar v).toList, isStop c = false := by
  have hnumeral (hn : v.IsNumber) (c : Char) (hc : c ∈ (scalar v).toList) : isStop c = false := by
    simp [isStop, isNumeral_number hv hn c hc]
  cases v with
  | null => simp [scalar, isStop]
  | bool b => cases b <;> simp [scalar, isStop]
  | integer n => exact hnumeral (.integer n)
  | double x => exact hnumeral (.double x)
  | string | array | object => cases h

theorem IsWord.exists_letter {v : Json} (h : v.IsWord) :
    ∃ c ∈ (scalar v).toList, isNumeral c = false := by
  cases h with
  | null => exact ⟨'n', by simp [scalar], rfl⟩
  | bool b =>
    cases b with
    | false => exact ⟨'f', by simp [scalar], rfl⟩
    | true => exact ⟨'t', by simp [scalar], rfl⟩

theorem IsWord.ne_number {v w : Json} (hv : v.IsWord) (hw : w.Genuine) (hn : w.IsNumber) :
    scalar v ≠ scalar w := by
  intro h
  obtain ⟨c, hc, hletter⟩ := hv.exists_letter
  have hnumeral := isNumeral_number hw hn c (h ▸ hc)
  rw [hletter] at hnumeral
  cases hnumeral

theorem IsWord.inj {v w : Json} (hv : v.IsWord) (hw : w.IsWord) (h : scalar v = scalar w) : v = w := by
  rcases hv with _ | ⟨_ | _⟩ <;> rcases hw with _ | ⟨_ | _⟩
  all_goals first | rfl | exact absurd h (by decide)

theorem IsNumber.inj {v w : Json} (hv : v.Genuine) (hw : w.Genuine) (hn : v.IsNumber) (hm : w.IsNumber)
    (h : scalar v = scalar w) : v = w := by
  cases hn with
  | integer n =>
    cases hm with
    | integer m => exact congrArg Json.integer (integer_inj h)
    | double y =>
      obtain ⟨negative, u, rfl, -⟩ := hw.exists_units
      exact absurd h (integer_ne_double n negative u)
  | double x =>
    obtain ⟨negative, u, rfl, hu⟩ := hv.exists_units
    cases hm with
    | integer m => exact absurd h.symm (integer_ne_double m negative u)
    | double y =>
      obtain ⟨negative', u', rfl, hu'⟩ := hw.exists_units
      exact congrArg Json.double (double_inj hu hu' h)

theorem word_or_number {v : Json} (h : v.opening? = none) : v.IsWord ∨ v.IsNumber := by
  cases v with
  | null => exact .inl .null
  | bool b => exact .inl (.bool b)
  | integer n => exact .inr (.integer n)
  | double x => exact .inr (.double x)
  | string | array | object => cases h

theorem scalar_inj {v w : Json} (hv : v.Genuine) (hw : w.Genuine) (hv' : v.opening? = none)
    (hw' : w.opening? = none) (h : scalar v = scalar w) : v = w := by
  rcases word_or_number hv' with hv' | hv' <;> rcases word_or_number hw' with hw' | hw'
  · exact hv'.inj hw' h
  · exact absurd h (hv'.ne_number hw hw')
  · exact absurd h.symm (hw'.ne_number hv hv')
  · exact hv'.inj hv hw hw' h

/-- Whether what follows does not go on with a word or a numeral. -/
def Ends (rest : List Char) : Prop := ∀ c ∈ rest.head?, isStop c

theorem append_inj_of_stops {cs ds rest rest' : List Char} (hcs : ∀ c ∈ cs, isStop c = false)
    (hds : ∀ c ∈ ds, isStop c = false) (hrest : Ends rest) (hrest' : Ends rest')
    (h : cs ++ rest = ds ++ rest') : cs = ds ∧ rest = rest' := by
  have hfront {cs rest : List Char} (hcs : ∀ c ∈ cs, isStop c = false) (hrest : Ends rest) :
      (cs ++ rest).takeWhile (!isStop ·) = cs := by
    rw [List.takeWhile_append_of_pos (by simpa using hcs)]
    cases rest with
    | nil => simp
    | cons c rest => simp [hrest c rfl]
  have hsame : cs = ds := by rw [← hfront hcs hrest, h, hfront hds hrest']
  subst hsame
  exact ⟨rfl, List.append_cancel_left h⟩

theorem intercalate_cons_eq (c : Char) (cs : List Char) (css : List (List Char)) :
    [c].intercalate (cs :: css) = cs ++ css.flatMap (c :: ·) := by
  induction css generalizing cs with
  | nil => rw [List.intercalate_singleton, List.flatMap_nil, List.append_nil]
  | cons ds css ih =>
    rw [List.intercalate_cons_cons, ih, List.flatMap_cons, List.append_assoc]
    rfl

section Lists

variable {f : α → List Char} {last : Char} {xs ys : List α} {rest rest' : List Char}

/-- Whether what is written of these elements tells them apart, before a stop. -/
def TellsApart (f : α → List Char) (xs ys : List α) : Prop :=
  ∀ x ∈ xs, ∀ y ∈ ys, ∀ rest rest', Ends rest → Ends rest' →
    f x ++ rest = f y ++ rest' → x = y ∧ rest = rest'

theorem TellsApart.tail {x y : α} (h : TellsApart f (x :: xs) (y :: ys)) : TellsApart f xs ys :=
  fun a ha b hb => h a (List.mem_cons_of_mem x ha) b (List.mem_cons_of_mem y hb)

theorem ends_further (hlast : isStop last) (zs : List α) (rest : List Char) :
    Ends (zs.flatMap (',' :: f ·) ++ last :: rest) := by
  cases zs with
  | nil => exact fun c hc => Option.some.inj hc ▸ hlast
  | cons z zs => exact fun c hc => Option.some.inj hc ▸ rfl

/-- The further elements of a list, each behind a comma. -/
theorem TellsApart.further_inj (h : TellsApart f xs ys) (hlast : isStop last) (hne : last ≠ ',')
    (heq : xs.flatMap (',' :: f ·) ++ last :: rest = ys.flatMap (',' :: f ·) ++ last :: rest') :
    xs = ys ∧ rest = rest' := by
  induction xs generalizing ys with
  | nil =>
    cases ys with
    | nil => exact ⟨rfl, (List.cons.inj heq).2⟩
    | cons y ys => exact absurd (List.cons.inj heq).1 hne
  | cons x xs ih =>
    cases ys with
    | nil => exact absurd (List.cons.inj heq).1.symm hne
    | cons y ys =>
      simp only [List.flatMap_cons, List.cons_append, List.append_assoc, List.cons.injEq, true_and] at heq
      obtain ⟨rfl, hrest⟩ := h x List.mem_cons_self y List.mem_cons_self _ _ (ends_further hlast xs rest)
        (ends_further hlast ys rest') heq
      obtain ⟨rfl, rfl⟩ := ih h.tail hrest
      exact ⟨rfl, rfl⟩

/-- The elements of a list between commas, up to the bracket that closes it. -/
theorem TellsApart.elements_inj (h : TellsApart f xs ys) (hlast : isStop last) (hne : last ≠ ',')
    (hfirst : ∀ x ∈ xs ++ ys, ∀ rest, (f x ++ rest).head? ≠ some last)
    (heq : [','].intercalate (xs.map f) ++ last :: rest = [','].intercalate (ys.map f) ++ last :: rest') :
    xs = ys ∧ rest = rest' := by
  cases xs with
  | nil =>
    cases ys with
    | nil => exact ⟨rfl, (List.cons.inj heq).2⟩
    | cons y ys =>
      rw [List.map_cons, intercalate_cons_eq, List.append_assoc] at heq
      exact absurd (congrArg List.head? heq).symm (hfirst y (by simp) _)
  | cons x xs =>
    cases ys with
    | nil =>
      rw [List.map_cons, intercalate_cons_eq, List.append_assoc] at heq
      exact absurd (congrArg List.head? heq) (hfirst x (by simp) _)
    | cons y ys =>
      simp only [List.map_cons, intercalate_cons_eq, List.append_assoc, List.flatMap_map] at heq
      obtain ⟨rfl, hrest⟩ := h x List.mem_cons_self y List.mem_cons_self _ _ (ends_further hlast xs rest)
        (ends_further hlast ys rest') heq
      obtain ⟨rfl, rfl⟩ := h.tail.further_inj hlast hne hrest
      exact ⟨rfl, rfl⟩

end Lists

theorem genuine_array {items : List Json} : (array items).Genuine ↔ ∀ x ∈ items, x.Genuine :=
  forall_numbers_array

theorem genuine_object {members : List (String × Json)} :
    (object members).Genuine ↔ ∀ m ∈ members, m.2.Genuine :=
  forall_numbers_object

theorem compact_eq_scalar {v : Json} (h : v.opening? = none) : v.compact = scalar v := by
  cases v with
  | null | bool | integer | double => simp [compact]
  | string | array | object => cases h

theorem scalar_ne_nil {v : Json} (hv : v.Genuine) (h : v.opening? = none) : (scalar v).toList ≠ [] := by
  cases v with
  | null => simp [scalar]
  | bool b => cases b <;> simp [scalar]
  | integer n =>
    obtain ⟨d, ds, hdigits, -, -⟩ := exists_toDigits n.natAbs
    rw [toList_integer, hdigits]
    exact List.ne_nil_of_mem (mem_minus List.mem_cons_self)
  | double x =>
    obtain ⟨negative, u, rfl, -⟩ := hv.exists_units
    obtain ⟨c, hc, -⟩ := exists_mark u
    rw [toList_double]
    exact List.ne_nil_of_mem (mem_minus hc)
  | string | array | object => cases h

/-- What is written of a value begins as its kind does. -/
theorem head?_compact {j : Json} (hj : j.Genuine) (rest : List Char) :
    ∃ c, (j.compact.toList ++ rest).head? = some c ∧
      (if isStop c then some c else none) = j.opening? := by
  have hscalar (h : j.opening? = none) : ∃ c, (j.compact.toList ++ rest).head? = some c ∧
      (if isStop c then some c else none) = j.opening? := by
    obtain ⟨c, cs, hcs⟩ := List.exists_cons_of_ne_nil (scalar_ne_nil hj h)
    have hc := isStop_scalar hj h c (hcs ▸ List.mem_cons_self)
    refine ⟨c, ?_, ?_⟩
    · rw [compact_eq_scalar h, hcs]
      rfl
    · rw [h, hc]
      rfl
  cases j with
  | null | bool | integer | double => exact hscalar rfl
  | string s => exact ⟨'"', by simp [compact, scalar, quote], rfl⟩
  | array items => exact ⟨'[', by simp [compact], rfl⟩
  | object members => exact ⟨'\x7b', by simp [compact], rfl⟩

theorem opening?_eq {j k : Json} (hj : j.Genuine) (hk : k.Genuine) {rest rest' : List Char}
    (h : j.compact.toList ++ rest = k.compact.toList ++ rest') : j.opening? = k.opening? := by
  obtain ⟨c, hc, hcj⟩ := head?_compact hj rest
  obtain ⟨d, hd, hdk⟩ := head?_compact hk rest'
  rw [h, hd] at hc
  rw [← hcj, ← hdk, Option.some.inj hc]

/-- No value begins with a bracket that closes one. -/
theorem head?_compact_ne {j : Json} (hj : j.Genuine) {last : Char} (hlast : isStop last)
    (hne : j.opening? ≠ some last) (rest : List Char) : (j.compact.toList ++ rest).head? ≠ some last := by
  intro h
  obtain ⟨c, hc, hcj⟩ := head?_compact hj rest
  obtain rfl := Option.some.inj (hc.symm.trans h)
  rw [if_pos hlast] at hcj
  exact hne hcj.symm

theorem scalar_append_inj {v k : Json} (hv : v.Genuine) (hk : k.Genuine) (hopen : v.opening? = none)
    {rest rest' : List Char} (hrest : Ends rest) (hrest' : Ends rest')
    (h : v.compact.toList ++ rest = k.compact.toList ++ rest') : v = k ∧ rest = rest' := by
  have hopen' : k.opening? = none := (opening?_eq hv hk h).symm.trans hopen
  rw [compact_eq_scalar hopen, compact_eq_scalar hopen'] at h
  obtain ⟨htext, hrest⟩ := append_inj_of_stops (isStop_scalar hv hopen) (isStop_scalar hk hopen') hrest
    hrest' h
  exact ⟨scalar_inj hv hk hopen hopen' (String.toList_inj.mp htext), hrest⟩

theorem toList_array (items : List Json) :
    (compact (array items)).toList = '[' :: ([','].intercalate (items.map (·.compact.toList)) ++ [']']) := by
  rw [compact, compactItems_eq]
  simp [String.toList_intercalate, Function.comp_def]

def memberText (m : String × Json) : List Char := (quote m.1).toList ++ ':' :: m.2.compact.toList

theorem toList_object (members : List (String × Json)) :
    (compact (object members)).toList =
      '\x7b' :: ([','].intercalate (members.map memberText) ++ ['\x7d']) := by
  rw [compact, compactMembers_eq]
  simp [String.toList_intercalate, Function.comp_def]
  rfl

/-- A value can be told from what is written of it, whatever stands behind it. -/
theorem compact_append_inj {j k : Json} (hj : j.Genuine) (hk : k.Genuine) {rest rest' : List Char}
    (hrest : Ends rest) (hrest' : Ends rest') (h : j.compact.toList ++ rest = k.compact.toList ++ rest') :
    j = k ∧ rest = rest' := by
  induction j using Json.induct generalizing k rest rest' with
  | null | bool | integer | double => exact scalar_append_inj hj hk rfl hrest hrest' h
  | string s =>
    have hopen := opening?_eq hj hk h
    cases k with
    | string t =>
      obtain ⟨rfl, hrest⟩ := quote_append_inj h
      exact ⟨rfl, hrest⟩
    | null | bool | integer | double | array | object => simp [opening?] at hopen
  | array items ih =>
    have hopen := opening?_eq hj hk h
    cases k with
    | array items' =>
      have hall := genuine_array.mp hj
      have hall' := genuine_array.mp hk
      have happart : TellsApart (·.compact.toList) items items' := fun x hx y hy _ _ hrest hrest' h =>
        ih x hx (hall x hx) (hall' y hy) hrest hrest' h
      rw [toList_array, toList_array, List.cons_append, List.cons_append, List.append_assoc,
        List.append_assoc] at h
      have hfirst : ∀ x ∈ items ++ items', ∀ rest, (x.compact.toList ++ rest).head? ≠ some ']' :=
        fun x hx => head?_compact_ne (List.forall_mem_append.mpr ⟨hall, hall'⟩ x hx) rfl
          (by cases x <;> simp [opening?])
      obtain ⟨rfl, hrest⟩ := happart.elements_inj rfl (by decide) hfirst (List.cons.inj h).2
      exact ⟨rfl, hrest⟩
    | null | bool | integer | double | string | object => simp [opening?] at hopen
  | object members ih =>
    have hopen := opening?_eq hj hk h
    cases k with
    | object members' =>
      have hall := genuine_object.mp hj
      have hall' := genuine_object.mp hk
      have happart : TellsApart memberText members members' := by
        intro m hm m' hm' rest rest' hrest hrest' h
        rw [memberText, memberText, List.append_assoc, List.append_assoc] at h
        obtain ⟨hname, hvalue⟩ := quote_append_inj h
        obtain ⟨hvalue, hrest⟩ := ih m hm (hall m hm) (hall' m' hm') hrest hrest' (List.cons.inj hvalue).2
        exact ⟨Prod.ext hname hvalue, hrest⟩
      rw [toList_object, toList_object, List.cons_append, List.cons_append, List.append_assoc,
        List.append_assoc] at h
      have hfirst : ∀ m ∈ members ++ members', ∀ rest, (memberText m ++ rest).head? ≠ some '\x7d' :=
        fun m _ rest => by simp [memberText, quote]
      obtain ⟨rfl, hrest⟩ := happart.elements_inj rfl (by decide) hfirst (List.cons.inj h).2
      exact ⟨rfl, hrest⟩
    | null | bool | integer | double | string | array => simp [opening?] at hopen

theorem compact_inj {j k : Json} (hj : j.Genuine) (hk : k.Genuine) (h : j.compact = k.compact) : j = k := by
  have happend : j.compact.toList ++ [] = k.compact.toList ++ [] := by rw [h]
  have hend : Ends [] := fun c hc => by cases hc
  exact (compact_append_inj hj hk hend hend happend).1

end Json

end Arbiter
