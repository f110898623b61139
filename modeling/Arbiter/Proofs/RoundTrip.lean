import Arbiter.Format.Text
import Arbiter.Proofs.Format.Exchange
import Arbiter.Proofs.Format.Kept
import Arbiter.Proofs.Json.Casting
import Arbiter.Proofs.Json.Text

namespace Arbiter

namespace Json

/-- The texts that are written of a value: on one line, and one element to a line. -/
def texts (j : Json) : List String := [j.compact, j.pretty ""]

def isDouble : Json → Bool
  | double _ => true
  | _ => false

/-- Whether the numeral that is written for each double in a value is read as that double. -/
def DoublesLegible (j : Json) : Prop := ∀ v ∈ j.numbers, v.isDouble → Legible v

instance (j : Json) : Decidable j.DoublesLegible := inferInstanceAs (Decidable (∀ v ∈ _, _ → _))

theorem ofText?_texts {j : Json} {room : Nat} (hfits : j.Fits room) (hdoubles : j.DoublesLegible) :
    ∀ text ∈ j.texts, Tree.ofText? text = some (.ofJson j) := by
  have hlegible : ∀ v ∈ j.numbers, Legible v := by
    intro v hv
    have hnumeral := hfits.numbers v hv
    cases v with
    | integer n => exact legible_integer hnumeral
    | double x => exact hdoubles _ hv rfl
    | _ => cases hnumeral
  refine List.forall_mem_cons.2 ⟨ofText?_of_spells (spells_compact hlegible), ?_⟩
  exact List.forall_mem_singleton.2 (ofText?_of_spells (spells_pretty hlegible (by simp)))

end Json

/-- Reads a value from its JSON text, where so many arrays and objects may be open at once. -/
def readWithin (room : Nat) (shape : Shape) (ofJson? : Json → Option α) (text : String) : Option α :=
  ((Json.Tree.ofText? text).bind (Json.Tree.cast? room shape)).bind ofJson?

theorem readJson_of_readWithin {shape : Shape} {ofJson? : Json → Option α} {text : String} {a : α}
    (h : readWithin Json.Tree.depthLimit shape ofJson? text = some a) :
    readJson shape ofJson? text = .ok a := by
  have hread : (Json.read? shape text).bind ofJson? = some a := h
  rw [readJson, hread]

/-- Whether a value is read from each of its texts: where there is room for it, however deep it is, and so by
the reader that has room for as many levels as it allows. -/
structure RoundTrips (shape : Shape) (toJson : α → Json) (ofJson? : Json → Option α) (a : α) : Prop where
  within : ∀ room, (toJson a).Fits room → ∀ text ∈ (toJson a).texts,
    readWithin room shape ofJson? text = some a
  read : (toJson a).Fits Json.Tree.depthLimit → ∀ text ∈ (toJson a).texts, readJson shape ofJson? text = .ok a

theorem roundTrips_of_conforms {shape : Shape} {toJson : α → Json} {ofJson? : Json → Option α} {a : α}
    (hshape : Json.Conforms shape (toJson a)) (hread : ofJson? (toJson a) = some a)
    (hdoubles : (toJson a).DoublesLegible) : RoundTrips shape toJson ofJson? a := by
  have hwithin : ∀ room, (toJson a).Fits room → ∀ text ∈ (toJson a).texts,
      readWithin room shape ofJson? text = some a := by
    intro room hfits text htext
    rw [readWithin, Json.ofText?_texts hfits hdoubles text htext, Option.bind_some,
      Json.Tree.cast?_ofJson hshape room hfits, Option.bind_some, hread]
  exact ⟨hwithin, fun hfits text htext => readJson_of_readWithin (hwithin _ hfits text htext)⟩

theorem Document.roundTrips {d : Document} (h : d.Expressible) (hdoubles : d.toJson.DoublesLegible) :
    RoundTrips (.record .document) toJson ofJson? d :=
  roundTrips_of_conforms d.conforms (d.ofJson?_toJson h) hdoubles

/-- What is read from a text can be written and read again. -/
theorem Document.kept_of_ofJsonText {text : String} {d : Document} (h : ofJsonText text = .ok d) :
    Json.Kept toJson Expressible Json.Tree.depthLimit d := by
  unfold ofJsonText readJson at h
  split at h
  · rename_i hread
    cases h
    obtain ⟨j, hj, hread⟩ := Option.bind_eq_some_iff.1 hread
    exact Document.yields (by decide) ((Json.fits_read? hj).imp fun _ hv => hv.hasNumeral) hread
  · cases h

/-- One half. -/
def Binary64.half : Binary64 := .finite false (Nat.pow 2 1073)

/-- A set with an empty slot, a reference, a set without children and a policy with an empty slot. A condition
in it compares with a list that holds null, and an obligation assigns an object. -/
def Document.varied : Document where
  policies := [.policySet { id := "s", algorithm := some .denyOverrides, priority := -3 } (some [
    none, some (.reference "r"), some (.policySet { id := "t" } none),
    some (.policy {
      id := "p", description := some "a \"b\"\n"
      target := some ⟨.not, none, none, [⟨.test .within, some { category := .subject, attributeId := "role" },
        some (.array [.null, .integer 1, .double .half, .string "1"]), []⟩]⟩
      rules := some [none, some {
        id := "r", effect := .permit
        obligations := [⟨"log", .permit,
          [⟨"at", .object [("k", .array [.null, .integer 18446744073709551615])]⟩]⟩] }]
      })])]

end Arbiter
