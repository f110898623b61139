import Arbiter.Proofs.Engine.Run
import Arbiter.Proofs.Store
import Arbiter.Proofs.Tree

namespace Arbiter

/-- What becomes of a store when a document is loaded under these ids. -/
structure Store.Takes (s : Store) (d : Document) (ids : List String) (s' : Store) : Prop where
  /-- The nodes go in one after another, and none is refused. -/
  inserted : d.policies.foldlM insert s = .ok s'
  generation : s'.generation = s.generation + d.policies.length
  ids : ids = d.policies.map (·.id)
  found : ∀ n ∈ d.policies, s'.get? n.id = some n

theorem Store.takes_of_valid {s s' : Store} {d : Document} (hd : d.invalid? = none)
    (h : d.policies.foldlM insert s = .ok s') : s.Takes d (d.policies.map (·.id)) s' where
  inserted := h
  generation := foldlM_insert_generation h
  ids := rfl
  found := get?_foldlM_insert h (Document.invalid?_eq_none_iff.mp hd).2

namespace Engine

/-- Nodes, their order and the generation of the store, and of the cache the entries in the order of
their use and the counts of hits and misses. -/
structure Untouched (e e' : Engine) : Prop where
  store : e'.store = e.store
  cache : e'.cache = e.cache

/-- A document is loaded whole if it is valid, and else refused without a trace. -/
structure Loads (e : Engine) (d : Document) (out : Except Error (List String) × Engine) : Prop where
  succeeds_iff : (∃ ids, out.1 = .ok ids) ↔ d.invalid? = none
  refused : ∀ err, out.1 = .error err → e.Untouched out.2
  loaded : ∀ ids, out.1 = .ok ids → e.store.Takes d ids out.2.store

theorem loadDocument_loads (e : Engine) (d : Document) : e.Loads d (e.loadDocument d) := by
  unfold loadDocument
  rcases e.store.load_spec d with ⟨i, hd, hload⟩ | ⟨s, hd, hload, hfold⟩
  · rw [hload]
    exact ⟨by simp [hd], fun _ _ => ⟨rfl, rfl⟩, fun _ hok => nomatch hok⟩
  · rw [hload]
    refine ⟨by simp [hd], fun _ herr => (nomatch herr), ?_⟩
    intro ids hok
    obtain rfl := Except.ok.inj hok
    exact Store.takes_of_valid hd hfold

/-- The same for a document that has to be read first. One that cannot be read is not loaded. -/
structure LoadsRead (e : Engine) (read : Except Error Document)
    (out : Except Error (List String) × Engine) : Prop where
  unread : ∀ err, read = .error err → out.1 = .error err ∧ e.Untouched out.2
  read : ∀ d, read = .ok d → e.Loads d out

theorem loadRead_loads (e : Engine) (read : Except Error Document) :
    e.LoadsRead read (e.loadRead read) := by
  cases read with
  | error err =>
    refine ⟨?_, fun _ hd => nomatch hd⟩
    intro err' herr
    obtain rfl := Except.error.inj herr
    exact ⟨rfl, rfl, rfl⟩
  | ok d =>
    refine ⟨fun _ herr => (nomatch herr), ?_⟩
    intro d' hd
    obtain rfl := Except.ok.inj hd
    exact e.loadDocument_loads d

theorem loadPolicy_untouched {e : Engine} {n : Node} {err : Error}
    (h : (e.loadPolicy n).1 = .error err) : e.Untouched (e.loadPolicy n).2 := by
  unfold loadPolicy at h ⊢
  cases hn : e.store.insert n with
  | error i => exact ⟨rfl, rfl⟩
  | ok s => simp [hn] at h

theorem unloadPolicy_untouched {e : Engine} {id : String} {err : Error}
    (h : (e.unloadPolicy id).1 = .error err) : e.Untouched (e.unloadPolicy id).2 := by
  unfold unloadPolicy at h ⊢
  cases hid : e.store.remove? id with
  | none => exact ⟨rfl, rfl⟩
  | some x => simp [hid] at h

/-- Every way to change the policies of an engine either succeeds or changes nothing that counts. -/
structure ChangesAtomically (e : Engine) : Prop where
  policy : ∀ n err, (e.loadPolicy n).1 = .error err → e.Untouched (e.loadPolicy n).2
  unloading : ∀ id err, (e.unloadPolicy id).1 = .error err → e.Untouched (e.unloadPolicy id).2
  document : ∀ d, e.Loads d (e.loadDocument d)
  json : ∀ text, e.LoadsRead (Document.ofJsonText text) (e.loadJson text)
  yaml : ∀ text, e.LoadsRead (Document.ofYamlText text) (e.loadYaml text)
  file : ∀ f : File, e.LoadsRead f.document (e.loadFile f)

theorem changes_atomically (e : Engine) : e.ChangesAtomically where
  policy _ _ h := loadPolicy_untouched h
  unloading _ _ h := unloadPolicy_untouched h
  document d := e.loadDocument_loads d
  json text := e.loadRead_loads (Document.ofJsonText text)
  yaml text := e.loadRead_loads (Document.ofYamlText text)
  file f := by
    rw [loadFile_eq]
    exact e.loadRead_loads f.document

/-- Two nodes under one id, and nothing of the document is kept, though the first alone might have been;
then a document that puts a node in the place of another. -/
theorem changes_atomically_repeated :
    let p (e : Effect) : Node := .policy (.always "p" e [])
    let q : Node := .policy (.always "q" .deny [])
    let e : Engine :=
      { settings := {}, store := ⟨[p .permit], 1⟩, cache := some { capacity := 2, ttl := 5, misses := 1 } }
    let bad := e.loadDocument { policies := [q, p .deny, q] }
    let good := e.loadDocument { policies := [q, p .deny] }
    bad.1 = .error (Invalid.duplicateId "q").error ∧ bad.2.store = e.store ∧ bad.2.cache = e.cache ∧
      good.1 = .ok ["q", "p"] ∧ good.2.store.nodes = [p .deny, q] ∧ good.2.store.generation = 3 ∧
        good.2.store.get? "p" = some (p .deny) := by
  intro p q e bad good
  have hbad : bad.1 = .error (Invalid.duplicateId "q").error := rfl
  have hgood : good.1 = .ok ["q", "p"] := rfl
  have hatomic := e.changes_atomically.document
  have hrefused := (hatomic { policies := [q, p .deny, q] }).refused _ hbad
  have hloaded := (hatomic { policies := [q, p .deny] }).loaded _ hgood
  exact ⟨hbad, hrefused.store, hrefused.cache, hgood, rfl, hloaded.generation,
    hloaded.found (p .deny) (by simp)⟩

end Engine

end Arbiter
