import Arbiter.Json.Writer
import Arbiter.Json.Token
import Mathlib.Data.List.Forall2
import Mathlib.Tactic.SplitIfs

/-! Which characters spell which tokens. Words and numerals end only where another character stands, so what
spells them is told by what may follow. -/

namespace Arbiter.Json

namespace Token

/-- The tokens that the rest of a pass finds, in reverse. -/
def scan? (s : State) (cs : List Char) : Option (List Token) := (cs.foldlM step s).bind finish?

/-- Whether a character goes on neither with a word nor with a numeral. -/
def isStop (c : Char) : Bool := !isNumeral c && !c.isLower

/-- Whether characters spell tokens between others, before a stop or the end. Before anything else they need
not: a digit goes on with the numeral before it. -/
def Spells (cs : List Char) (ts : List Token) : Prop :=
  ∀ before rest, (∀ c ∈ rest.head?, isStop c) →
    scan? ⟨.between, before⟩ (cs ++ rest) = scan? ⟨.between, ts.reverse ++ before⟩ rest

theorem scan?_cons (s : State) (c : Char) (cs : List Char) :
    scan? s (c :: cs) = (step s c).bind (scan? · cs) := by
  rw [scan?, List.foldlM_cons, Option.bind_eq_bind, Option.bind_assoc]
  rfl

theorem scan?_append {s s' : State} {cs : List Char} (h : cs.foldlM step s = some s') (rest : List Char) :
    scan? s (cs ++ rest) = scan? s' rest := by
  rw [scan?, List.foldlM_append, h]
  rfl

/-- At a stop or the end a pass goes on with what it has finished. -/
theorem scan?_finish {s : State} {ts : List Token} (hs : finish? s = some ts)
    (hstep : ∀ c, isStop c → step s c = (finish? s).bind (between · c)) {rest : List Char}
    (hrest : ∀ c ∈ rest.head?, isStop c) : scan? s rest = scan? ⟨.between, ts⟩ rest := by
  cases rest with
  | nil => exact hs
  | cons c cs =>
    rw [scan?_cons, scan?_cons, hstep c (hrest c rfl), hs]
    rfl

section Composition

variable {cs ds : List Char} {ts us : List Token}

theorem spells_nil : Spells [] [] := fun _ _ _ => rfl

theorem Spells.append (hcs : Spells cs ts) (hds : Spells ds us) (hstop : ∃ c ∈ ds.head?, isStop c) :
    Spells (cs ++ ds) (ts ++ us) := by
  intro before rest hrest
  obtain ⟨c, hc, hstop⟩ := hstop
  have hends : ∀ d ∈ (ds ++ rest).head?, isStop d := by
    intro d hd
    rw [List.head?_append, Option.mem_def.1 hc] at hd
    cases hd
    exact hstop
  rw [List.append_assoc, hcs before (ds ++ rest) hends, hds _ rest hrest, List.reverse_append,
    List.append_assoc]

theorem spells_blanks {gap : List Char} (hgap : ∀ c ∈ gap, isBlank c) (h : Spells cs ts) :
    Spells (gap ++ cs) ts := by
  induction gap with
  | nil => exact h
  | cons c gap ih =>
    obtain ⟨hc, hgap⟩ := List.forall_mem_cons.1 hgap
    intro before rest hrest
    have hstep : step ⟨.between, before⟩ c = some ⟨.between, before⟩ := by simp [step, between, hc]
    rw [List.cons_append, List.cons_append, scan?_cons, hstep]
    exact ih hgap before rest hrest

theorem spells_cons {c : Char} {t : Token} (hc : ∀ before, between before c = some ⟨.between, t :: before⟩)
    (h : Spells cs ts) : Spells (c :: cs) (t :: ts) := by
  intro before rest hrest
  have hstep : step ⟨.between, before⟩ c = some ⟨.between, t :: before⟩ := hc before
  rw [List.cons_append, scan?_cons, hstep, Option.bind_some, h _ rest hrest, List.reverse_cons,
    List.append_assoc]
  rfl

/-- Parts between commas, each comma with blanks after it. -/
theorem spells_intercalate {gap : List Char} (hgap : ∀ c ∈ gap, isBlank c) {parts : List (List Char)}
    {tss : List (List Token)} (h : List.Forall₂ Spells parts tss) (hds : Spells ds us)
    (hstop : ∃ c ∈ ds.head?, isStop c) :
    Spells ((',' :: gap).intercalate parts ++ ds) ([Token.comma].intercalate tss ++ us) := by
  induction h with
  | nil => exact hds
  | @cons part ts parts tss hpart hrest ih =>
    cases hrest with
    | nil =>
      rw [List.intercalate_singleton, List.intercalate_singleton]
      exact hpart.append hds hstop
    | cons hnext hrest =>
      rw [List.intercalate_cons_cons, List.intercalate_cons_cons, List.append_assoc, List.append_assoc,
        List.append_assoc, List.append_assoc]
      refine hpart.append ?_ ⟨',', rfl, by decide⟩
      exact spells_cons (fun _ => rfl) (spells_blanks hgap ih)

end Composition

theorem spells_word {cs w : List Char} {t : Token} (hword : word? w.reverse = some t)
    (hread : ∀ before, cs.foldlM step ⟨.between, before⟩ = some ⟨.word w, before⟩) : Spells cs [t] := by
  intro before rest hrest
  rw [scan?_append (hread before)]
  have hfinish : finish? ⟨.word w, before⟩ = some (t :: before) := by simp [finish?, hword]
  refine scan?_finish hfinish (fun c hc => ?_) hrest
  have hlower : c.isLower = false := by simpa using (Bool.and_eq_true_iff.1 hc).2
  simp [step, hlower]

theorem foldlM_numeral {cs : List Char} (hcs : ∀ c ∈ cs, isNumeral c) (w : List Char) (before : List Token) :
    cs.foldlM step ⟨.numeral w, before⟩ = some ⟨.numeral (cs.reverse ++ w), before⟩ := by
  induction cs generalizing w with
  | nil => rfl
  | cons c cs ih =>
    obtain ⟨hc, hcs⟩ := List.forall_mem_cons.1 hcs
    have hstep : step ⟨.numeral w, before⟩ c = some ⟨.numeral (c :: w), before⟩ := by simp [step, hc]
    rw [List.foldlM_cons, hstep, Option.bind_eq_bind, Option.bind_some, ih hcs, List.reverse_cons,
      List.append_assoc]
    rfl

theorem between_numeral {c : Char} (hc : c.isDigit ∨ c = '-') (before : List Token) :
    between before c = some ⟨.numeral [c], before⟩ := by
  have hne : ∀ d : Char, d.isDigit = false ∧ d ≠ '-' → c ≠ d := by
    rintro d ⟨hd, hd'⟩ rfl
    simp_all
  have hblank : isBlank c = false := by
    simp [isBlank, hne ' ' (by decide), hne '\t' (by decide), hne '\n' (by decide), hne '\r' (by decide)]
  simp [between, hblank, hc, hne '[' (by decide), hne ']' (by decide), hne '\x7b' (by decide),
    hne '\x7d' (by decide), hne ',' (by decide), hne ':' (by decide), hne '"' (by decide)]

end Token

namespace Numeral

open Token (isNumeral)

theorem isNumeral_of_isDigit {c : Char} (h : c.isDigit) : isNumeral c := by
  simp [isNumeral, h]

theorem isNumeral_of_takeDigits {cs : List Char} (h : ∀ c ∈ (takeDigits cs).2, isNumeral c) :
    ∀ c ∈ cs, isNumeral c := by
  intro c hc
  rw [← List.takeWhile_append_dropWhile (p := Char.isDigit) (l := cs), List.mem_append] at hc
  obtain hc | hc := hc
  · exact isNumeral_of_isDigit (List.all_eq_true.1 List.all_takeWhile c hc)
  · exact h c hc

theorem isNumeral_of_signed {cs : List Char} (h : ∀ c ∈ (Arbiter.Numeral.signed cs).2, isNumeral c) :
    ∀ c ∈ cs, isNumeral c := by
  unfold Arbiter.Numeral.signed at h
  split at h
  · exact List.forall_mem_cons.2 ⟨rfl, h⟩
  · exact List.forall_mem_cons.2 ⟨rfl, h⟩
  · exact h

theorem isNumeral_of_exponent? {cs : List Char} {e : Option Int} (h : Arbiter.Numeral.exponent? cs = some e) :
    ∀ c ∈ cs, isNumeral c := by
  unfold Arbiter.Numeral.exponent? at h
  split at h
  · simp
  split at h
  · rename_i c cs hc
    refine List.forall_mem_cons.2 ⟨by obtain rfl | rfl := hc <;> rfl, isNumeral_of_signed ?_⟩
    dsimp only at h
    split at h
    · cases h
    · rename_i hdigits
      exact isNumeral_of_takeDigits (by simp [hdigits])
    · cases h
  · cases h

theorem isNumeral_of_fraction? {cs rest : List Char} {ds : List Nat} (h : fraction? cs = some (ds, rest))
    (hrest : ∀ c ∈ rest, isNumeral c) : ∀ c ∈ cs, isNumeral c := by
  unfold fraction? at h
  split at h
  · split at h
    · cases h
    · rename_i cs r _
      have hdigits : takeDigits cs = (ds, rest) := Option.some.inj h
      exact List.forall_mem_cons.2 ⟨rfl, isNumeral_of_takeDigits (by simpa [hdigits] using hrest)⟩
  · cases h
    exact hrest

theorem isDigit_head_of_takeDigits {cs : List Char} (h : (takeDigits cs).1 ≠ []) :
    ∃ c ∈ cs.head?, c.isDigit := by
  cases cs with
  | nil => exact absurd rfl h
  | cons c cs =>
    refine ⟨c, rfl, ?_⟩
    by_contra hc
    simp [takeDigits, hc] at h

/-- The parts of a numeral after its sign. -/
def Parts.unsigned? (negative : Bool) (cs : List Char) : Option Parts := do
  let (whole, rest) := takeDigits cs
  match whole with
  | [] => none
  | 0 :: _ :: _ => none
  | _ =>
    let (fraction, rest) ← fraction? rest
    return ⟨negative, whole, fraction, ← Arbiter.Numeral.exponent? rest⟩

theorem Parts.ofChars?_minus (cs : List Char) : ofChars? ('-' :: cs) = unsigned? true cs := rfl

theorem Parts.ofChars?_of_ne {cs : List Char} (h : cs.head? ≠ some '-') :
    ofChars? cs = unsigned? false cs := by
  rw [ofChars?]
  · rfl
  · rintro ds rfl
    exact h rfl

theorem isNumeral_of_unsigned? {negative : Bool} {cs : List Char} {p : Parts}
    (h : Parts.unsigned? negative cs = some p) : (∀ c ∈ cs, isNumeral c) ∧ ∃ c ∈ cs.head?, c.isDigit := by
  unfold Parts.unsigned? at h
  dsimp only at h
  split at h
  · cases h
  · cases h
  · rename_i hwhole _
    simp only [Option.bind_eq_bind, Option.bind_eq_some_iff] at h
    obtain ⟨⟨fraction, rest⟩, hfraction, exponent, hexponent, -⟩ := h
    exact ⟨isNumeral_of_takeDigits (isNumeral_of_fraction? hfraction (isNumeral_of_exponent? hexponent)),
      isDigit_head_of_takeDigits hwhole⟩

/-- A numeral starts with a digit or a minus sign. -/
theorem isNumeral_of_ofChars? {cs : List Char} {p : Parts} (h : Parts.ofChars? cs = some p) :
    (∀ c ∈ cs, isNumeral c) ∧ ∃ c ∈ cs.head?, c.isDigit ∨ c = '-' := by
  by_cases hminus : cs.head? = some '-'
  · obtain ⟨ds, rfl⟩ := List.head?_eq_some_iff.1 hminus
    rw [Parts.ofChars?_minus] at h
    exact ⟨List.forall_mem_cons.2 ⟨rfl, (isNumeral_of_unsigned? h).1⟩, '-', rfl, .inr rfl⟩
  · rw [Parts.ofChars?_of_ne hminus] at h
    obtain ⟨hcs, c, hc, hdigit⟩ := isNumeral_of_unsigned? h
    exact ⟨hcs, c, hc, .inl hdigit⟩

end Numeral

namespace Token

theorem spells_numeral {cs : List Char} {p : Numeral.Parts} (hparts : Numeral.Parts.ofChars? cs = some p) :
    Spells cs [.number p.value?] := by
  obtain ⟨hcs, c, hc, hfirst⟩ := Numeral.isNumeral_of_ofChars? hparts
  obtain ⟨ds, rfl⟩ : ∃ ds, cs = c :: ds := List.head?_eq_some_iff.1 hc
  intro before rest hrest
  have hread : (c :: ds).foldlM step ⟨.between, before⟩ = some ⟨.numeral (c :: ds).reverse, before⟩ := by
    have hstep : step ⟨.between, before⟩ c = some ⟨.numeral [c], before⟩ := between_numeral hfirst before
    rw [List.foldlM_cons, hstep, Option.bind_eq_bind, Option.bind_some,
      foldlM_numeral (List.forall_mem_cons.1 hcs).2, List.reverse_cons]
  rw [scan?_append hread]
  have hfinish : finish? ⟨.numeral (c :: ds).reverse, before⟩ = some (.number p.value? :: before) := by
    simp only [finish?, List.reverse_reverse, hparts, Option.map_some]
  refine scan?_finish hfinish (fun d hd => ?_) hrest
  have hnumeral : isNumeral d = false := by simpa using (Bool.and_eq_true_iff.1 hd).1
  simp [step, hnumeral]

theorem hexValue?_hexDigit : ∀ n < 16, hexValue? (hexDigit n) = some n := by decide

/-- An escape of four digits, of which the first two are zero. -/
theorem foldlM_code {n : Nat} (hn : n < 256) (parts : List TextPart) (before : List Token) :
    ['\\', 'u', '0', '0', hexDigit (n / 16), hexDigit (n % 16)].foldlM step ⟨.text parts, before⟩ =
      some ⟨.text (.char (Char.ofNat n) :: parts), before⟩ := by
  have hhigh := hexValue?_hexDigit (n / 16) (by omega)
  have hlow := hexValue?_hexDigit (n % 16) (by omega)
  have hzero : hexValue? '0' = some 0 := rfl
  have hcode : TextPart.ofCode (n / 16 * 16 + n % 16) = .char (Char.ofNat n) := by
    rw [Nat.div_add_mod', TextPart.ofCode, if_neg (by omega)]
  simp [List.foldlM_cons, step, hhigh, hlow, hzero, hcode]

theorem foldlM_escape (c : Char) (parts : List TextPart) (before : List Token) :
    (escape c).foldlM step ⟨.text parts, before⟩ = some ⟨.text (.char c :: parts), before⟩ := by
  unfold escape
  split_ifs with hquote hslash hnewline hreturn htab hback hfeed hcontrol
  · subst hquote
    rfl
  · subst hslash
    rfl
  · subst hnewline
    rfl
  · subst hreturn
    rfl
  · subst htab
    rfl
  · subst hback
    rfl
  · subst hfeed
    rfl
  · rw [foldlM_code (by omega), Char.ofNat_toNat]
  · simp [step, hquote, hslash, hcontrol]

theorem foldlM_escapes (cs : List Char) (parts : List TextPart) (before : List Token) :
    (cs.flatMap escape).foldlM step ⟨.text parts, before⟩ =
      some ⟨.text ((cs.map TextPart.char).reverse ++ parts), before⟩ := by
  induction cs generalizing parts with
  | nil => rfl
  | cons c cs ih =>
    rw [List.flatMap_cons, List.foldlM_append, foldlM_escape, Option.bind_eq_bind, Option.bind_some, ih,
      List.map_cons, List.reverse_cons, List.append_assoc]
    rfl

theorem chars?_chars (cs after : List Char) :
    TextPart.chars? after (cs.map .char) = some (cs.reverse ++ after) := by
  induction cs generalizing after with
  | nil => rfl
  | cons c cs ih => rw [List.map_cons, TextPart.chars?, ih, List.reverse_cons, List.append_assoc]; rfl

/-- A quoted text is read as the text that was quoted. -/
theorem spells_quote (s : String) : Spells (quote s).toList [.string (some s)] := by
  intro before rest _
  have hopen : step ⟨.between, before⟩ '"' = some ⟨.text [], before⟩ := rfl
  have hclose : step ⟨.text ((s.toList.map .char).reverse ++ []), before⟩ '"' =
      some ⟨.between, .string (some s) :: before⟩ := by
    have hchars : TextPart.chars? [] (s.toList.map .char).reverse = some s.toList := by
      rw [← List.map_reverse, chars?_chars, List.reverse_reverse, List.append_nil]
    simp only [step, if_true, List.append_nil, hchars, Option.map_some, String.ofList_toList]
  have hread : ('"' :: s.toList.flatMap escape ++ ['"']).foldlM step ⟨.between, before⟩ =
      some ⟨.between, .string (some s) :: before⟩ := by
    rw [List.cons_append, List.foldlM_cons, hopen, Option.bind_eq_bind, Option.bind_some, List.foldlM_append,
      foldlM_escapes, Option.bind_eq_bind, Option.bind_some, List.foldlM_cons, hclose]
    rfl
  rw [quote, String.toList_ofList, scan?_append hread]
  rfl

end Token

end Arbiter.Json
