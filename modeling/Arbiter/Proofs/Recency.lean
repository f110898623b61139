import Arbiter.Proofs.Distinct
import Arbiter.Proofs.Hashing
import Mathlib.Data.List.DropRight
import Mathlib.Data.List.Forall2

/-! The cache as a bounded map that forgets what was used longest ago, read off the history of its calls.

As long as nothing expires, the history alone tells what is kept: what was put or found since the cache was
last cleared, the inquiry used last before the others, for as many inquiries as there is room, and the
response put last for each. -/

namespace Arbiter

/-- What is asked of a cache: the attributes of a request and the generation of the store. -/
structure Inquiry where
  attributes : List Attribute
  generation : Nat
  deriving DecidableEq

namespace Inquiry

def key (i : Inquiry) : CacheKey := Request.cacheKey { attributes := i.attributes } i.generation

theorem key_inj {i j : Inquiry} : i.key = j.key ↔ i = j := by
  rw [key, key, Request.cacheKey_inj, mk.injEq]

end Inquiry

def Request.inquiry (r : Request) (generation : Nat) : Inquiry := ⟨r.attributes, generation⟩

inductive CacheOperation where
  | get (r : Request) (generation : Nat)
  | put (r : Request) (generation : Nat) (response : Response)
  | clear
  deriving DecidableEq

/-- An operation and when it is performed. -/
structure CacheCall where
  now : Nat
  operation : CacheOperation
  deriving DecidableEq

/-- A call and its answer, which only a lookup has. -/
structure CacheEvent extends CacheCall where
  answer : Option Response
  deriving DecidableEq

def CacheCall.isLookup (call : CacheCall) : Bool := call.operation matches .get ..

namespace CacheEvent

def isHit (e : CacheEvent) : Bool := e.isLookup && e.answer.isSome

def isMiss (e : CacheEvent) : Bool := e.isLookup && e.answer.isNone

def clears (e : CacheEvent) : Bool := e.operation matches .clear

/-- The inquiry that this puts a response for, or finds one for. -/
def used? (e : CacheEvent) : Option Inquiry :=
  match e.operation with
  | .put r g _ => some (r.inquiry g)
  | .get r g => if e.answer.isSome then some (r.inquiry g) else none
  | .clear => none

/-- The response that this puts for an inquiry, and when. -/
def put? (i : Inquiry) (e : CacheEvent) : Option (Nat × Response) :=
  match e.operation with
  | .put r g response => if r.inquiry g = i then some (e.now, response) else none
  | .get .. | .clear => none

theorem now_of_put? {i : Inquiry} (e : CacheEvent) {p : Nat × Response} (h : e.put? i = some p) :
    e.now = p.1 := by
  unfold put? at h
  split at h
  · split at h
    · exact congrArg Prod.fst (Option.some.inj h)
    · cases h
  all_goals cases h

end CacheEvent

namespace CacheHistory

/-- The events since everything was last forgotten. -/
def since (h : List CacheEvent) : List CacheEvent := h.rtakeWhile fun e => !e.clears

/-- The inquiries that were used, the one used last first. -/
def recent (h : List CacheEvent) : List Inquiry := ((since h).filterMap (·.used?)).reverse.eraseDups

/-- The response put last for an inquiry, and when. -/
def latest? (h : List CacheEvent) (i : Inquiry) : Option (Nat × Response) :=
  ((since h).filterMap (·.put? i)).getLast?

/-- The entry that an inquiry should have. -/
def kept? (ttl : Nat) (h : List CacheEvent) (i : Inquiry) : Option CacheEntry :=
  (latest? h i).map fun (now, response) => ⟨i.key, response, now + ttl⟩

section

variable (h : List CacheEvent) (e : CacheEvent) (i : Inquiry)

theorem since_concat : since (h ++ [e]) = if e.clears then [] else since h ++ [e] := by
  rw [since, List.rtakeWhile_concat]
  cases e.clears <;> rfl

theorem recent_concat :
    recent (h ++ [e]) =
      if e.clears then []
      else match e.used? with
        | none => recent h
        | some i => i :: (recent h).filter (· ≠ i) := by
  rw [recent, since_concat]
  cases e.clears with
  | true => rfl
  | false =>
    rw [if_neg Bool.false_ne_true, if_neg Bool.false_ne_true, List.filterMap_append,
      List.reverse_append]
    cases hu : e.used? with
    | none => simp [hu, recent]
    | some i =>
      have hkept : (fun j => !j == i) = (fun j : Inquiry => decide (j ≠ i)) := by
        funext j
        simp [beq_eq_decide]
      simp only [List.filterMap_cons, hu, List.filterMap_nil, List.reverse_singleton,
        List.singleton_append, List.eraseDups_cons, recent, filter_eraseDups, hkept]

theorem latest?_concat :
    latest? (h ++ [e]) i = if e.clears then none else (e.put? i).or (latest? h i) := by
  rw [latest?, since_concat]
  split
  · rfl
  · rw [List.filterMap_append, List.getLast?_append]
    cases he : e.put? i <;> simp [he, latest?]

theorem nodup_recent : (recent h).Nodup := nodup_eraseDups _

theorem kept?_put (ttl now : Nat) (r : Request) (g : Nat) (response : Response) :
    kept? ttl (h ++ [⟨⟨now, .put r g response⟩, none⟩]) i =
      if r.inquiry g = i then some ⟨i.key, response, now + ttl⟩ else kept? ttl h i := by
  rw [kept?, latest?_concat]
  simp only [CacheEvent.clears, CacheEvent.put?, Bool.false_eq_true, if_false]
  split <;> rfl

theorem kept?_get (ttl now : Nat) (r : Request) (g : Nat) (answer : Option Response) :
    kept? ttl (h ++ [⟨⟨now, .get r g⟩, answer⟩]) i = kept? ttl h i := by
  rw [kept?, latest?_concat]
  rfl

end

/-- What is put last was put at some time. -/
theorem exists_of_latest? {h : List CacheEvent} {i : Inquiry} {p : Nat × Response}
    (hp : latest? h i = some p) : ∃ e ∈ h, e.put? i = some p := by
  obtain ⟨e, he, hput⟩ := List.mem_filterMap.mp (List.mem_of_getLast? hp)
  exact ⟨e, (List.rtakeWhile_suffix _ h).subset he, hput⟩

end CacheHistory

/-- To take one more than is wanted leaves enough, if one is dropped. -/
theorem take_filter_take [DecidableEq α] {xs : List α} (hx : xs.Nodup) (x : α) (n : Nat) :
    ((xs.take (n + 1)).filter (· ≠ x)).take n = (xs.filter (· ≠ x)).take n := by
  induction xs generalizing n with
  | nil => rfl
  | cons y ys ih =>
    obtain ⟨hy, hys⟩ := List.nodup_cons.mp hx
    rw [List.take_succ_cons]
    by_cases hyx : y = x
    · subst hyx
      have hkeep {l : List α} (hl : y ∉ l) : l.filter (· ≠ y) = l := by
        rw [List.filter_eq_self]
        intro z hz
        have hne : z ≠ y := fun h => hl (h ▸ hz)
        simpa using hne
      have hfront : y ∉ ys.take n := fun h => hy (List.mem_of_mem_take h)
      rw [List.filter_cons_of_neg (by simp), List.filter_cons_of_neg (by simp), hkeep hfront, hkeep hy,
        List.take_take, Nat.min_self]
    · rw [List.filter_cons_of_pos (by simpa using hyx), List.filter_cons_of_pos (by simpa using hyx)]
      cases n with
      | zero => rfl
      | succ n => rw [List.take_succ_cons, List.take_succ_cons, ih hys n]

theorem countP_cons_eq_toNat (p : α → Bool) (x : α) (xs : List α) :
    (x :: xs).countP p = (p x).toNat + xs.countP p := by
  rw [List.countP_cons, Nat.add_comm]
  cases p x <;> rfl

namespace Cache

/-- What a call answers, and the cache it leaves. -/
def perform (c : Cache) (call : CacheCall) : Option Response × Cache :=
  match call.operation with
  | .get r g => c.get call.now r g
  | .put r g response => (none, c.put call.now r g response)
  | .clear => (none, c.clear)

/-- The events that calls one after another come to, and the cache they leave. -/
def run (c : Cache) : List CacheCall → List CacheEvent × Cache
  | [] => ([], c)
  | call :: calls =>
    let (answer, c) := c.perform call
    let (events, c) := c.run calls
    (⟨call, answer⟩ :: events, c)

/-- No call is so late that what an earlier one put has expired. -/
def NoneExpires (ttl : Nat) (calls : List CacheCall) : Prop :=
  calls.Pairwise fun earlier later => later.now < earlier.now + ttl

/-- The clock does not go back. -/
def InOrder (calls : List CacheCall) : Prop :=
  calls.Pairwise fun earlier later => earlier.now ≤ later.now

/-- The cache holds the inquiries used last, as many as there is room for, and what was put for each. -/
def Tells (c : Cache) (h : List CacheEvent) : Prop :=
  List.Forall₂ (fun i x => CacheHistory.kept? c.ttl h i = some x)
    ((CacheHistory.recent h).take c.capacity) c.entries

theorem get_ttl (c : Cache) (now : Nat) (r : Request) (g : Nat) : (c.get now r g).2.ttl = c.ttl := by
  unfold get
  cases c.entries.find? (·.isFor r g) with
  | none => rfl
  | some x =>
    dsimp only
    split <;> rfl

theorem perform_setup (c : Cache) (call : CacheCall) :
    (c.perform call).2.capacity = c.capacity ∧ (c.perform call).2.ttl = c.ttl := by
  obtain ⟨now, o⟩ := call
  cases o with
  | get r g => exact ⟨c.get_capacity now r g, c.get_ttl now r g⟩
  | put r g response => exact ⟨rfl, rfl⟩
  | clear => exact ⟨rfl, rfl⟩

open CacheHistory

variable {c : Cache} {h : List CacheEvent}

theorem isFor_of_kept? {ttl : Nat} {i : Inquiry} {x : CacheEntry} (hx : kept? ttl h i = some x)
    (r : Request) (g : Nat) : x.isFor r g = true ↔ i = r.inquiry g := by
  obtain ⟨⟨now, response⟩, -, rfl⟩ := Option.map_eq_some_iff.mp hx
  exact decide_eq_true_iff.trans (Inquiry.key_inj (j := r.inquiry g))

namespace Tells

/-- An inquiry that is among those used last has an entry, as it should have, and no other one has. -/
theorem find?_eq (ht : c.Tells h) (r : Request) (g : Nat) :
    if r.inquiry g ∈ (recent h).take c.capacity then
      ∃ x, kept? c.ttl h (r.inquiry g) = some x ∧ c.entries.find? (·.isFor r g) = some x
    else c.entries.find? (·.isFor r g) = none := by
  unfold Tells at ht
  generalize (recent h).take c.capacity = is at ht ⊢
  generalize c.entries = xs at ht ⊢
  induction ht with
  | nil => rfl
  | @cons i x is xs hx _ ih =>
    by_cases hi : i = r.inquiry g
    · have hfor := (isFor_of_kept? hx r g).mpr hi
      rw [if_pos (by simp [hi]), List.find?_cons_of_pos hfor]
      exact ⟨x, hi ▸ hx, rfl⟩
    · have hfor : ¬ x.isFor r g = true := fun hfor => hi ((isFor_of_kept? hx r g).mp hfor)
      have hmem : r.inquiry g ∈ i :: is ↔ r.inquiry g ∈ is := by
        rw [List.mem_cons]
        exact or_iff_right fun heq => hi heq.symm
      rw [List.find?_cons_of_neg hfor]
      simpa only [hmem] using ih

theorem size_le (ht : c.Tells h) : c.size ≤ c.capacity := by
  have hlen : ((recent h).take c.capacity).length = c.size := List.Forall₂.length_eq ht
  rw [← hlen]
  exact List.length_take_le ..

/-- An inquiry comes to the front with what is to be kept for it, and all others stay as they are. -/
theorem promoted (ht : c.Tells h) (hpos : 0 < c.capacity) {h' : List CacheEvent} {r : Request} {g : Nat}
    {x : CacheEntry} (hx : kept? c.ttl h' (r.inquiry g) = some x)
    (hothers : ∀ i, i ≠ r.inquiry g → kept? c.ttl h' i = kept? c.ttl h i) :
    List.Forall₂ (fun i x => kept? c.ttl h' i = some x)
      ((r.inquiry g :: (recent h).filter (· ≠ r.inquiry g)).take c.capacity)
      ((x :: c.others r g).take c.capacity) := by
  obtain ⟨n, hn⟩ := Nat.exists_eq_succ_of_ne_zero (Nat.pos_iff_ne_zero.mp hpos)
  have hrest : List.Forall₂ (fun i x => kept? c.ttl h i = some x)
      (((recent h).take c.capacity).filter (· ≠ r.inquiry g)) (c.others r g) := by
    refine List.rel_filter (fun i x hx => ?_) ht
    have hfor := isFor_of_kept? hx r g
    simp [← hfor]
  have htaken := List.forall₂_take n hrest
  rw [hn, take_filter_take (nodup_recent h)] at htaken
  rw [hn, List.take_succ_cons, List.take_succ_cons]
  have hother : ∀ i ∈ ((recent h).filter (· ≠ r.inquiry g)).take n, i ≠ r.inquiry g := fun i hi =>
    of_decide_eq_true (List.mem_filter.mp (List.mem_of_mem_take hi)).2
  have hboth := (List.forall₂_and_left _ _).mpr ⟨hother, htaken⟩
  exact .cons hx (hboth.imp fun i y hy => (hothers i hy.1).trans hy.2)

theorem get_of_mem (ht : c.Tells h) {now : Nat} (hlive : ∀ e ∈ h, now < e.now + c.ttl) {r : Request}
    {g : Nat} (hi : r.inquiry g ∈ (recent h).take c.capacity) :
    ∃ put response x, latest? h (r.inquiry g) = some (put, response) ∧
      kept? c.ttl h (r.inquiry g) = some x ∧ c.entries.find? (·.isFor r g) = some x ∧
      c.get now r g = (some { response with requestId := r.id },
        { c with entries := x :: c.others r g, hits := c.hits + 1 }) := by
  have hfound := ht.find?_eq r g
  rw [if_pos hi] at hfound
  obtain ⟨x, hx, hfound⟩ := hfound
  obtain ⟨⟨put, response⟩, hlatest, rfl⟩ := Option.map_eq_some_iff.mp hx
  obtain ⟨e, he, hput⟩ := exists_of_latest? hlatest
  have hnow : now < put + c.ttl := by
    have hlt := hlive e he
    rwa [e.now_of_put? hput] at hlt
  refine ⟨put, response, _, hlatest, hx, hfound, ?_⟩
  simp only [get, hfound, if_pos hnow]

theorem get_of_notMem (ht : c.Tells h) (now : Nat) {r : Request} {g : Nat}
    (hi : r.inquiry g ∉ (recent h).take c.capacity) :
    c.get now r g = (none, { c with misses := c.misses + 1 }) := by
  have hfound := ht.find?_eq r g
  rw [if_neg hi] at hfound
  simp only [get, hfound]

theorem isSome_get_iff (ht : c.Tells h) {now : Nat} (hlive : ∀ e ∈ h, now < e.now + c.ttl) (r : Request)
    (g : Nat) :
    (c.get now r g).1.isSome ↔
      r.inquiry g ∈ (recent h).take c.capacity ∧ (latest? h (r.inquiry g)).isSome := by
  by_cases hi : r.inquiry g ∈ (recent h).take c.capacity
  · obtain ⟨put, response, x, hlatest, -, -, hget⟩ := ht.get_of_mem hlive hi
    simp [hget, hlatest, hi]
  · simp [ht.get_of_notMem now hi, hi]

/-- One call adds to the history what it does to the cache. -/
theorem perform (ht : c.Tells h) (hpos : 0 < c.capacity) (call : CacheCall)
    (hlive : ∀ e ∈ h, call.now < e.now + c.ttl) :
    (c.perform call).2.Tells (h ++ [⟨call, (c.perform call).1⟩]) := by
  obtain ⟨now, o⟩ := call
  cases o with
  | clear =>
    have hnone : recent (h ++ [⟨⟨now, .clear⟩, none⟩]) = [] := recent_concat ..
    change List.Forall₂ _ ((recent (h ++ [⟨⟨now, .clear⟩, none⟩])).take c.capacity) []
    rw [hnone, List.take_nil]
    exact .nil
  | put r g response =>
    have hrecent : recent (h ++ [⟨⟨now, .put r g response⟩, none⟩]) =
        r.inquiry g :: (recent h).filter (· ≠ r.inquiry g) := recent_concat ..
    change List.Forall₂ _ ((recent (h ++ [⟨⟨now, .put r g response⟩, none⟩])).take c.capacity) _
    rw [hrecent]
    exact ht.promoted hpos ((kept?_put ..).trans (if_pos rfl)) fun i hi =>
      (kept?_put ..).trans (if_neg hi.symm)
  | get r g =>
    by_cases hi : r.inquiry g ∈ (recent h).take c.capacity
    · obtain ⟨put, response, x, -, hx, hfound, hget⟩ := ht.get_of_mem hlive hi
      have hrecent (found : Response) : recent (h ++ [⟨⟨now, .get r g⟩, some found⟩]) =
          r.inquiry g :: (recent h).filter (· ≠ r.inquiry g) := recent_concat ..
      have hfits : (x :: c.others r g).take c.capacity = x :: c.others r g :=
        List.take_of_length_le ((c.length_others_lt r g hfound).trans_le ht.size_le)
      have hpromoted (found : Response) :=
        ht.promoted hpos ((kept?_get h _ c.ttl now r g (some found)).trans hx) fun i _ =>
          kept?_get h i c.ttl now r g (some found)
      simp only [Cache.perform, hget, Tells, hrecent]
      exact hfits ▸ hpromoted _
    · have hget := ht.get_of_notMem now hi
      have hrecent : recent (h ++ [⟨⟨now, .get r g⟩, none⟩]) = recent h := recent_concat ..
      simp only [Cache.perform, hget, Tells, hrecent, kept?_get]
      exact ht

theorem run {calls : List CacheCall} (ht : c.Tells h) (hpos : 0 < c.capacity)
    (hlive : NoneExpires c.ttl (h.map (·.toCacheCall) ++ calls)) :
    (c.run calls).2.Tells (h ++ (c.run calls).1) := by
  induction calls generalizing c h with
  | nil => simpa [Cache.run] using ht
  | cons call calls ih =>
    obtain ⟨hcapacity, httl⟩ := c.perform_setup call
    have hlater : ∀ e ∈ h, call.now < e.now + c.ttl := fun e he =>
      (List.pairwise_append.mp hlive).2.2 _ (List.mem_map_of_mem he) call List.mem_cons_self
    have hstep := ht.perform hpos call hlater
    have hrest := ih hstep (hcapacity ▸ hpos) (by simpa [httl] using hlive)
    simpa [Cache.run] using hrest

end Tells

/-- Every entry is what was put last for some inquiry. -/
def Backed (c : Cache) (h : List CacheEvent) : Prop :=
  ∀ x ∈ c.entries, ∃ i, kept? c.ttl h i = some x

namespace Backed

theorem perform (hb : c.Backed h) (call : CacheCall) :
    (c.perform call).2.Backed (h ++ [⟨call, (c.perform call).1⟩]) := by
  obtain ⟨now, o⟩ := call
  cases o with
  | clear => exact fun x hx => absurd hx List.not_mem_nil
  | put r g response =>
    intro x hx
    rcases List.mem_cons.mp (List.mem_of_mem_take hx) with rfl | hx
    · exact ⟨r.inquiry g, (kept?_put ..).trans (if_pos rfl)⟩
    · obtain ⟨hmem, hfor⟩ := List.mem_filter.mp hx
      obtain ⟨i, hi⟩ := hb x hmem
      have hne : r.inquiry g ≠ i := fun heq => by
        simp [(isFor_of_kept? hi r g).mpr heq.symm] at hfor
      exact ⟨i, ((kept?_put ..).trans (if_neg hne)).trans hi⟩
  | get r g =>
    intro x hx
    obtain ⟨i, hi⟩ := hb x (c.mem_get now r g hx)
    refine ⟨i, ?_⟩
    rw [(c.perform_setup ⟨now, .get r g⟩).2, kept?_get, hi]

theorem run (hb : c.Backed h) (calls : List CacheCall) :
    (c.run calls).2.Backed (h ++ (c.run calls).1) := by
  induction calls generalizing c h with
  | nil => simpa [Cache.run] using hb
  | cons call calls ih => simpa [Cache.run] using ih (hb.perform call)

theorem latest?_of_get (hb : c.Backed h) {now : Nat} {r : Request} {g : Nat} {response : Response}
    (hget : (c.get now r g).1 = some response) :
    ∃ time original, latest? h (r.inquiry g) = some (time, original) ∧
      response = { original with requestId := r.id } := by
  obtain ⟨x, hx, hkey, rfl⟩ := c.of_get now r g hget
  obtain ⟨i, hi⟩ := hb x hx
  obtain rfl := (isFor_of_kept? hi r g).mp (decide_eq_true hkey)
  obtain ⟨⟨time, original⟩, hlatest, rfl⟩ := Option.map_eq_some_iff.mp hi
  exact ⟨time, original, hlatest, rfl⟩

theorem expiresAt_eq (hb : c.Backed h) {x : CacheEntry} (hx : x ∈ c.entries) :
    ∃ e ∈ h, x.expiresAt = e.now + c.ttl := by
  obtain ⟨i, hi⟩ := hb x hx
  obtain ⟨⟨time, original⟩, hlatest, rfl⟩ := Option.map_eq_some_iff.mp hi
  obtain ⟨e, he, hput⟩ := exists_of_latest? hlatest
  exact ⟨e, he, by rw [e.now_of_put? hput]⟩

end Backed

theorem run_setup (c : Cache) (calls : List CacheCall) :
    (c.run calls).2.capacity = c.capacity ∧ (c.run calls).2.ttl = c.ttl := by
  induction calls generalizing c with
  | nil => exact ⟨rfl, rfl⟩
  | cons call calls ih =>
    obtain ⟨hcapacity, httl⟩ := c.perform_setup call
    exact ⟨(ih _).1.trans hcapacity, (ih _).2.trans httl⟩

theorem perform_size_le (hc : c.size ≤ c.capacity) (call : CacheCall) :
    (c.perform call).2.size ≤ c.capacity := by
  obtain ⟨now, o⟩ := call
  cases o with
  | get r g => exact (c.size_get_le now r g).trans hc
  | put r g response => exact c.size_put_le now r g response
  | clear => exact Nat.zero_le _

theorem run_size_le (hc : c.size ≤ c.capacity) (calls : List CacheCall) :
    (c.run calls).2.size ≤ c.capacity := by
  induction calls generalizing c with
  | nil => exact hc
  | cons call calls ih =>
    have hcapacity := (c.perform_setup call).1
    exact hcapacity ▸ ih (hcapacity.symm ▸ perform_size_le hc call)

/-- Only lookups are counted, and each once. -/
theorem perform_counts (c : Cache) (call : CacheCall) :
    let e : CacheEvent := ⟨call, (c.perform call).1⟩
    (c.perform call).2.hits = c.hits + e.isHit.toNat ∧
      (c.perform call).2.misses = c.misses + e.isMiss.toNat := by
  obtain ⟨now, o⟩ := call
  cases o with
  | get r g => exact c.get_counts now r g
  | put r g response => exact ⟨rfl, rfl⟩
  | clear => exact ⟨rfl, rfl⟩

theorem run_counts (c : Cache) (calls : List CacheCall) :
    (c.run calls).2.hits = c.hits + (c.run calls).1.countP (·.isHit) ∧
      (c.run calls).2.misses = c.misses + (c.run calls).1.countP (·.isMiss) := by
  induction calls generalizing c with
  | nil => exact ⟨rfl, rfl⟩
  | cons call calls ih =>
    obtain ⟨hhits, hmisses⟩ := c.perform_counts call
    obtain ⟨ihhits, ihmisses⟩ := ih (c.perform call).2
    simp only [Cache.run, countP_cons_eq_toNat]
    rw [ihhits, ihmisses, hhits, hmisses, Nat.add_assoc, Nat.add_assoc]
    exact ⟨rfl, rfl⟩

theorem run_lookups (c : Cache) (calls : List CacheCall) :
    (c.run calls).1.countP (·.isHit) + (c.run calls).1.countP (·.isMiss) =
      calls.countP (·.isLookup) := by
  induction calls generalizing c with
  | nil => rfl
  | cons call calls ih =>
    have honce (answer : Option Response) :
        (CacheEvent.isHit ⟨call, answer⟩).toNat + (CacheEvent.isMiss ⟨call, answer⟩).toNat =
          call.isLookup.toNat := by
      unfold CacheEvent.isHit CacheEvent.isMiss
      cases call.isLookup <;> cases answer <;> rfl
    have hcall := honce (c.perform call).1
    have hrest := ih (c.perform call).2
    simp only [Cache.run, countP_cons_eq_toNat]
    omega

/-- Without any time to live, what a lookup comes upon has expired already. -/
theorem get_of_expired (c : Cache) {now : Nat} (hx : ∀ x ∈ c.entries, x.expiresAt ≤ now) (r : Request)
    (g : Nat) :
    c.get now r g = (none, { c with entries := c.others r g, misses := c.misses + 1 }) := by
  unfold get
  cases hf : c.entries.find? (·.isFor r g) with
  | none =>
    have hall : c.others r g = c.entries := by
      rw [others, List.filter_eq_self]
      intro x hx
      simpa using List.find?_eq_none.mp hf x hx
    simp only [hall]
  | some x =>
    have hold : ¬ now < x.expiresAt := Nat.not_lt.mpr (hx x (List.mem_of_find?_eq_some hf))
    simp only [if_neg hold]

/-- What calls of an empty cache leave. -/
def after (capacity ttl : Nat) (calls : List CacheCall) : Cache :=
  ((ofCapacity capacity ttl).run calls).2

/-- The events that calls of an empty cache come to. -/
def history (capacity ttl : Nat) (calls : List CacheCall) : List CacheEvent :=
  ((ofCapacity capacity ttl).run calls).1

/-- A cache holds what its history tells, and no more than it has room for. -/
structure KeepsRecent (capacity ttl : Nat) (calls : List CacheCall) : Prop where
  /-- What is hashed tells inquiries apart, in the order and the spelling of their attributes too. -/
  hashed_iff : ∀ (r r' : Request) (g g' : Nat), r.Genuine → r'.Genuine → g < 2 ^ 64 → g' < 2 ^ 64 →
    ((r.cacheKey g).bytes = (r'.cacheKey g').bytes ↔ r.inquiry g = r'.inquiry g')
  /-- Requests that are read from JSON texts are among those. -/
  genuine : ∀ (text : String) (r : Request), Request.ofJsonText text = .ok r → r.Genuine
  /-- Unless something has expired, a response is found for an inquiry if it is one of those used last, as
  many as there is room for, and one was put for it since the cache was last cleared. -/
  found_iff : ∀ now r g, NoneExpires ttl (calls ++ [⟨now, .get r g⟩]) →
    (((after capacity ttl calls).get now r g).1.isSome ↔
      r.inquiry g ∈ (recent (history capacity ttl calls)).take (max capacity 1) ∧
        (latest? (history capacity ttl calls) (r.inquiry g)).isSome)
  /-- A response found is the one put last, but for the id of the request. -/
  found : ∀ now r g response, ((after capacity ttl calls).get now r g).1 = some response →
    ∃ time original, latest? (history capacity ttl calls) (r.inquiry g) = some (time, original) ∧
      response = { original with requestId := r.id }
  size : (after capacity ttl calls).size ≤ max capacity 1
  hits : (after capacity ttl calls).hits = (history capacity ttl calls).countP (·.isHit)
  misses : (after capacity ttl calls).misses = (history capacity ttl calls).countP (·.isMiss)
  lookups : (after capacity ttl calls).hits + (after capacity ttl calls).misses =
    calls.countP (·.isLookup)
  /-- Without any time to live nothing is found, and what was looked up is removed, unless the clock went
  back. -/
  expired : ttl = 0 → ∀ now r g, InOrder (calls ++ [⟨now, .get r g⟩]) →
    (after capacity ttl calls).get now r g =
      (none, { after capacity ttl calls with
        entries := (after capacity ttl calls).others r g,
        misses := (after capacity ttl calls).misses + 1 })

theorem map_history (capacity ttl : Nat) (calls : List CacheCall) :
    (history capacity ttl calls).map (·.toCacheCall) = calls := by
  unfold history
  generalize ofCapacity capacity ttl = c
  induction calls generalizing c with
  | nil => rfl
  | cons call calls ih => exact congrArg (call :: ·) (ih _)

/-- What holds between a last call and those before it holds of the events they came to. -/
theorem forall_history {late : CacheCall → CacheCall → Prop} {calls : List CacheCall} {last : CacheCall}
    (hp : (calls ++ [last]).Pairwise late) (capacity ttl : Nat) :
    ∀ e ∈ history capacity ttl calls, late e.toCacheCall last := by
  intro e he
  have hmem : e.toCacheCall ∈ calls := map_history capacity ttl calls ▸ List.mem_map_of_mem he
  exact (List.pairwise_append.mp hp).2.2 _ hmem last (List.mem_singleton_self last)

theorem tells_after {capacity ttl : Nat} {calls : List CacheCall} (hlive : NoneExpires ttl calls) :
    (after capacity ttl calls).Tells (history capacity ttl calls) := by
  have hempty : (ofCapacity capacity ttl).Tells [] := by
    have hnone : (recent []).take (ofCapacity capacity ttl).capacity = [] := List.take_nil
    unfold Tells
    rw [hnone]
    exact .nil
  exact hempty.run (Nat.lt_of_lt_of_le Nat.zero_lt_one (Nat.le_max_right ..)) hlive

theorem backed_after (capacity ttl : Nat) (calls : List CacheCall) :
    (after capacity ttl calls).Backed (history capacity ttl calls) := by
  have hempty : (ofCapacity capacity ttl).Backed [] := fun x hx => absurd hx List.not_mem_nil
  exact hempty.run calls

/-- This holds of all caches, whatever they were asked and told. -/
theorem keeps_recent (capacity ttl : Nat) (calls : List CacheCall) : KeepsRecent capacity ttl calls := by
  obtain ⟨hcapacity, httl⟩ : (after capacity ttl calls).capacity = max capacity 1 ∧
      (after capacity ttl calls).ttl = ttl := run_setup (ofCapacity capacity ttl) calls
  obtain ⟨hhits, hmisses⟩ := run_counts (ofCapacity capacity ttl) calls
  have hbacked := backed_after capacity ttl calls
  constructor
  case hashed_iff =>
    intro r r' g g' hr hr' hg hg'
    rw [Request.bytes_inj hr hr' hg hg', Request.inquiry, Request.inquiry, Inquiry.mk.injEq]
  case genuine => exact fun text r hread => Request.genuine_of_ofJsonText hread
  case found_iff =>
    intro now r g hlive
    have ht : (after capacity ttl calls).Tells (history capacity ttl calls) :=
      tells_after (List.pairwise_append.mp hlive).1
    have hearlier := forall_history hlive capacity ttl
    rw [← hcapacity]
    exact ht.isSome_get_iff (by rwa [httl]) r g
  case found => exact fun now r g response hget => hbacked.latest?_of_get hget
  case size => exact run_size_le (Nat.zero_le _) calls
  case hits => exact hhits.trans (Nat.zero_add _)
  case misses => exact hmisses.trans (Nat.zero_add _)
  case lookups =>
    have hlookups := run_lookups (ofCapacity capacity ttl) calls
    unfold after
    rw [hhits, hmisses, ← hlookups]
    exact congrArg₂ _ (Nat.zero_add _) (Nat.zero_add _)
  case expired =>
    rintro rfl now r g horder
    refine get_of_expired _ (fun x hx => ?_) r g
    obtain ⟨e, he, hx⟩ := hbacked.expiresAt_eq hx
    have hle : e.now ≤ now := forall_history horder capacity 0 e he
    rwa [hx, httl]

/-- Of three requests, one was put before the second was put and found again after it. -/
example :
    let asks (name : String) : Request :=
      { id := name, attributes := [{ category := .subject, attributeId := name }] }
    let answer (d : Decision) : Response := { decision := d, statusCode := .ok }
    let calls : List CacheCall :=
      [⟨0, .put (asks "a") 7 (answer .permit)⟩, ⟨1, .put (asks "b") 7 (answer .deny)⟩,
        ⟨2, .get (asks "a") 7⟩, ⟨3, .put (asks "c") 7 (answer .deny)⟩]
    recent (history 2 60 calls) = [(asks "c").inquiry 7, (asks "a").inquiry 7, (asks "b").inquiry 7] ∧
      ((after 2 60 calls).get 4 (asks "a") 7).1 = some { answer .permit with requestId := "a" } ∧
      ((after 2 60 calls).get 4 (asks "b") 7).1 = none := by
  decide +kernel

end Cache

end Arbiter
