import Arbiter.Proofs.Json.Fits

namespace Arbiter.Json

mutual

/-- The tokens of a value. -/
def tokens : Json → List Token
  | null => [.null]
  | bool b => [.bool b]
  | integer n => [.number (some (integer n))]
  | double x => [.number (some (double x))]
  | string s => [.string (some s)]
  | array items => .openArray :: ([Token.comma].intercalate (tokensOfItems items) ++ [.closeArray])
  | object members => .openObject :: ([Token.comma].intercalate (tokensOfMembers members) ++ [.closeObject])

def tokensOfItems : List Json → List (List Token)
  | [] => []
  | x :: xs => tokens x :: tokensOfItems xs

def tokensOfMembers : List (String × Json) → List (List Token)
  | [] => []
  | (k, x) :: xs => (.string (some k) :: .colon :: tokens x) :: tokensOfMembers xs

end

theorem tokensOfItems_eq (items : List Json) : tokensOfItems items = items.map tokens := by
  induction items with
  | nil => rfl
  | cons x xs ih => rw [tokensOfItems, ih, List.map_cons]

theorem tokensOfMembers_eq (members : List (String × Json)) :
    tokensOfMembers members = members.map fun m => .string (some m.1) :: .colon :: tokens m.2 := by
  induction members with
  | nil => rfl
  | cons m ms ih => rw [tokensOfMembers, ih, List.map_cons]

namespace Reader

/-- The reader after some tokens. -/
def run? (r : Reader) (ts : List Token) : Option Reader := ts.foldlM step r

/-- Whether a reader that may take a value next goes on, after some tokens, as one that has taken that
tree. -/
def Takes (ts : List Token) (t : Tree) : Prop :=
  ∀ awaiting, awaiting = .value ∨ awaiting = .firstItem → ∀ stack rest,
    run? ⟨awaiting, stack⟩ (ts ++ rest) = run? (complete t stack) rest

theorem takes_scalar {token : Token} {t : Tree} (hfirst : token ≠ .closeArray)
    (h : ∀ stack, beginValue stack token = some (complete t stack)) : Takes [token] t := by
  rintro awaiting hawaiting stack rest
  have hstep : step ⟨awaiting, stack⟩ token = some (complete t stack) := by
    rw [← h stack]
    obtain rfl | rfl := hawaiting
    · rfl
    · unfold step
      split <;> simp_all
  rw [run?, List.singleton_append, List.foldlM_cons, hstep]
  rfl

theorem run?_items {items : List Json} (h : ∀ x ∈ items, Takes (tokens x) (.ofJson x)) (hitems : items ≠ [])
    {awaiting : Awaiting} (hawaiting : awaiting = .value ∨ awaiting = .firstItem) (before : List Tree)
    (stack : List Frame) (rest : List Token) :
    run? ⟨awaiting, .array before :: stack⟩
        ([Token.comma].intercalate (items.map tokens) ++ .closeArray :: rest) =
      run? (complete (.array (before.reverse ++ items.map .ofJson)) stack) rest := by
  induction items generalizing awaiting before with
  | nil => exact absurd rfl hitems
  | cons x xs ih =>
    obtain ⟨hx, hxs⟩ := List.forall_mem_cons.1 h
    have hbefore : before.reverse ++ (x :: xs).map Tree.ofJson =
        (Tree.ofJson x :: before).reverse ++ xs.map Tree.ofJson := by simp
    rw [hbefore]
    cases xs with
    | nil =>
      rw [List.map_singleton, List.intercalate_singleton, hx awaiting hawaiting, List.map_nil,
        List.append_nil]
      rfl
    | cons y ys =>
      rw [List.map_cons, List.map_cons, List.intercalate_cons_cons, List.append_assoc, List.append_assoc,
        hx awaiting hawaiting, ← ih hxs (by simp) (.inl rfl)]
      rfl

theorem run?_members {members : List (String × Json)} (h : ∀ m ∈ members, Takes (tokens m.2) (.ofJson m.2))
    (hmembers : members ≠ []) {before : List (Option String × Tree)} {awaiting : Awaiting}
    (hawaiting : awaiting = .firstKey before ∨ awaiting = .key before) (stack : List Frame)
    (rest : List Token) :
    run? ⟨awaiting, stack⟩ ([Token.comma].intercalate (tokensOfMembers members) ++ .closeObject :: rest) =
      run? (complete (.object (before.reverse ++ Tree.ofMembers members)) stack) rest := by
  induction members generalizing awaiting before with
  | nil => exact absurd rfl hmembers
  | cons m ms ih =>
    obtain ⟨k, x⟩ := m
    obtain ⟨hx, hms⟩ := List.forall_mem_cons.1 h
    have hbefore : before.reverse ++ Tree.ofMembers ((k, x) :: ms) =
        ((some k, Tree.ofJson x) :: before).reverse ++ Tree.ofMembers ms := by simp [Tree.ofMembers]
    have hkey : ∀ more, run? ⟨awaiting, stack⟩ (.string (some k) :: .colon :: more) =
        run? ⟨.value, .object before (some k) :: stack⟩ more := by
      obtain rfl | rfl := hawaiting <;> exact fun _ => rfl
    rw [hbefore]
    cases ms with
    | nil =>
      rw [tokensOfMembers, tokensOfMembers, List.intercalate_singleton, List.cons_append, List.cons_append,
        hkey, hx .value (.inl rfl), Tree.ofMembers, List.append_nil]
      rfl
    | cons n ns =>
      rw [tokensOfMembers, tokensOfMembers, List.intercalate_cons_cons, List.append_assoc, List.append_assoc,
        List.cons_append, List.cons_append, hkey, hx .value (.inl rfl), ← ih hms (by simp) (.inr rfl)]
      rfl

theorem takes_tokens (j : Json) : Takes (tokens j) (.ofJson j) := by
  induction j using Json.induct with
  | null | bool | integer | double | string => exact takes_scalar nofun fun _ => rfl
  | array items ih =>
    intro awaiting hawaiting stack rest
    have hopen : ∀ more, run? ⟨awaiting, stack⟩ (.openArray :: more) =
        run? ⟨.firstItem, .array [] :: stack⟩ more := by
      obtain rfl | rfl := hawaiting <;> exact fun _ => rfl
    rw [tokens, List.cons_append, hopen, tokensOfItems_eq, List.append_assoc, List.singleton_append,
      Tree.ofJson, Tree.ofItems_eq]
    cases items with
    | nil => rfl
    | cons x xs => exact run?_items ih (by simp) (.inr rfl) [] stack rest
  | object members ih =>
    intro awaiting hawaiting stack rest
    have hopen : ∀ more, run? ⟨awaiting, stack⟩ (.openObject :: more) = run? ⟨.firstKey [], stack⟩ more := by
      obtain rfl | rfl := hawaiting <;> exact fun _ => rfl
    rw [tokens, List.cons_append, hopen, List.append_assoc, List.singleton_append, Tree.ofJson]
    cases members with
    | nil => rfl
    | cons m ms => exact run?_members ih (by simp) (.inl rfl) stack rest

end Reader

/-- The reader finds the tree of a value in its tokens. -/
theorem Tree.ofTokens?_tokens (j : Json) : Tree.ofTokens? (tokens j) = some (.ofJson j) := by
  have hrun := Reader.takes_tokens j .value (.inl rfl) [] []
  rw [List.append_nil] at hrun
  rw [Tree.ofTokens?, show (tokens j).foldlM Reader.step {} = _ from hrun]
  rfl

end Arbiter.Json
