import Mathlib.Data.Int.Notation
import Mathlib.Data.List.Nodup
import Mathlib.Data.List.Perm.Basic

/-! JSON values, their storage up to the order of the keys of objects, and strict schemas that
read them. -/
namespace CluChess

/-- JSON, with the text of a number that is no integer. -/
inductive Json
  | null
  | boolean (b : Bool)
  | number (n : ℤ)
  | fraction (s : String)
  | text (s : String)
  | array (items : List Json)
  | object (fields : List (String × Json))

namespace Json

mutual

/-- The values that a store may give back: the objects have their keys in any order. -/
inductive Stored : Json → Json → Prop
  | null : Stored .null .null
  | boolean (b : Bool) : Stored (.boolean b) (.boolean b)
  | number (n : ℤ) : Stored (.number n) (.number n)
  | fraction (s : String) : Stored (.fraction s) (.fraction s)
  | text (s : String) : Stored (.text s) (.text s)
  | array {items items' : List Json} (h : StoredItems items items') :
      Stored (.array items) (.array items')
  | object {fields fields' stored : List (String × Json)} (h : StoredFields fields fields')
      (hperm : fields'.Perm stored) : Stored (.object fields) (.object stored)

inductive StoredItems : List Json → List Json → Prop
  | nil : StoredItems [] []
  | cons {j j' : Json} {items items' : List Json} (h : Stored j j')
      (hrest : StoredItems items items') : StoredItems (j :: items) (j' :: items')

inductive StoredFields : List (String × Json) → List (String × Json) → Prop
  | nil : StoredFields [] []
  | cons {j j' : Json} {fields fields' : List (String × Json)} (key : String) (h : Stored j j')
      (hrest : StoredFields fields fields') :
      StoredFields ((key,j) :: fields) ((key,j') :: fields')

end

mutual

theorem Stored.refl : ∀ j, Stored j j
  | .null => .null
  | .boolean b => .boolean b
  | .number n => .number n
  | .fraction s => .fraction s
  | .text s => .text s
  | .array items => .array (StoredItems.refl items)
  | .object fields => .object (StoredFields.refl fields) (.refl _)

theorem StoredItems.refl : ∀ items, StoredItems items items
  | [] => .nil
  | j :: items => .cons (Stored.refl j) (StoredItems.refl items)

theorem StoredFields.refl : ∀ fields, StoredFields fields fields
  | [] => .nil
  | (key,j) :: fields => .cons key (Stored.refl j) (StoredFields.refl fields)

end

/-- A schema reads a value out of JSON or rejects the JSON. -/
abbrev Schema (α : Type*) := Json → Option α

/-- Every stored form of `j` is read as `a`. -/
def ReadAs {α : Type*} (schema : Schema α) (j : Json) (a : α) : Prop :=
  ∀ stored, Stored j stored → schema stored = some a

section Schemas

variable {α β : Type*}

def booleanSchema : Schema Bool
  | .boolean b => some b
  | _ => none

def numberSchema (valid : ℤ → Bool) : Schema ℤ
  | .number n => if valid n then some n else none
  | _ => none

def textSchema (valid : String → Bool) : Schema String
  | .text s => if valid s then some s else none
  | _ => none

/-- A text out of a table of texts and their meanings. -/
def enumSchema (table : List (String × α)) : Schema α
  | .text s => table.lookup s
  | _ => none

def nullSchema : Schema Unit
  | .null => some ()
  | _ => none

def nullableSchema (schema : Schema α) : Schema (Option α)
  | .null => some none
  | j => (schema j).map some

/-- An array of exactly two items. -/
def tupleSchema (first : Schema α) (second : Schema β) : Schema (α × β)
  | .array [x,y] => (first x).bind fun a => (second y).map fun b => (a,b)
  | _ => none

/-- The value of a required field. -/
def field (fields : List (String × Json)) (key : String) (schema : Schema α) : Option α :=
  (fields.lookup key).bind schema

/-- An object that has none but the given keys. -/
def strictObject (keys : List String) (read : List (String × Json) → Option α) : Schema α
  | .object fields => if fields.all fun f => decide (f.1 ∈ keys) then read fields else none
  | _ => none

def ofNullable (encode : α → Json) : Option α → Json
  | none => .null
  | some a => encode a

end Schemas

section Lookup

variable {fields fields' stored : List (String × Json)}

theorem StoredFields.keys (h : StoredFields fields fields') :
    fields'.map Prod.fst = fields.map Prod.fst := by
  induction fields generalizing fields' with
  | nil =>
    cases h
    rfl
  | cons f fields ih =>
    cases h with
    | cons key _ hrest => rw [List.map_cons,List.map_cons,ih hrest]

theorem StoredFields.mem (h : StoredFields fields fields') {key : String} {j : Json}
    (hmem : (key,j) ∈ fields) : ∃ j', (key,j') ∈ fields' ∧ Stored j j' := by
  induction fields generalizing fields' with
  | nil => cases hmem
  | cons f fields ih =>
    cases h with
    | cons key' hj hrest =>
      rcases List.mem_cons.mp hmem with heq | hmem
      · cases heq
        exact ⟨_,List.mem_cons_self,hj⟩
      · obtain ⟨j',hmem',hj'⟩ := ih hrest hmem
        exact ⟨j',List.mem_cons_of_mem _ hmem',hj'⟩

/-- Among distinct keys a field is found by its key. -/
theorem lookup_of_mem (hkeys : (fields.map Prod.fst).Nodup) {key : String} {j : Json}
    (hmem : (key,j) ∈ fields) : fields.lookup key = some j := by
  induction fields with
  | nil => cases hmem
  | cons f fields ih =>
    obtain ⟨key',j'⟩ := f
    obtain ⟨hfresh,hrest⟩ := List.nodup_cons.mp hkeys
    rcases List.mem_cons.mp hmem with heq | hlater
    · cases heq
      rw [List.lookup_cons_self]
    · have hne : key ≠ key' := by
        rintro rfl
        exact hfresh (List.mem_map.mpr ⟨_,hlater,rfl⟩)
      rw [List.lookup_cons,beq_false_of_ne hne]
      exact ih hrest hlater

/-- What a read of a stored object relies on: the fields of the object, in any order. -/
def Holds (fields stored : List (String × Json)) : Prop :=
  ∀ key j, (key,j) ∈ fields → ∃ j', stored.lookup key = some j' ∧ Stored j j'

theorem StoredFields.holds (hkeys : (fields.map Prod.fst).Nodup) (h : StoredFields fields fields')
    (hperm : fields'.Perm stored) : Holds fields stored := by
  intro key j hmem
  obtain ⟨j',hmem',hj⟩ := h.mem hmem
  have hnodup : (stored.map Prod.fst).Nodup :=
    (hperm.map Prod.fst).nodup_iff.mp (h.keys ▸ hkeys)
  exact ⟨j',lookup_of_mem hnodup (hperm.mem_iff.mp hmem'),hj⟩

end Lookup

section ReadAs

variable {α β : Type*} {schema : Schema α} {j : Json} {a : α}

theorem ReadAs.boolean (b : Bool) : ReadAs booleanSchema (.boolean b) b := by
  intro _ h
  cases h
  rfl

theorem ReadAs.number {valid : ℤ → Bool} {n : ℤ} (hn : valid n = true) :
    ReadAs (numberSchema valid) (.number n) n := by
  intro _ h
  cases h
  exact if_pos hn

theorem ReadAs.text {valid : String → Bool} {s : String} (hs : valid s = true) :
    ReadAs (textSchema valid) (.text s) s := by
  intro _ h
  cases h
  exact if_pos hs

theorem ReadAs.enum {table : List (String × α)} {s : String} (hs : table.lookup s = some a) :
    ReadAs (enumSchema table) (.text s) a := by
  intro _ h
  cases h
  exact hs

theorem ReadAs.null : ReadAs nullSchema .null () := by
  intro _ h
  cases h
  rfl

theorem ReadAs.map {f : α → β} (h : ReadAs schema j a) :
    ReadAs (fun j => (schema j).map f) j (f a) := by
  intro stored hs
  show (schema stored).map f = _
  rw [h stored hs]
  rfl

/-- A schema that rejects `null` is not confused with its absence. -/
theorem ReadAs.present (h : ReadAs schema j a) (hnull : schema .null = none) :
    ReadAs (nullableSchema schema) j (some a) := by
  intro stored hs
  have hread := h stored hs
  cases stored with
  | null => rw [hnull] at hread; cases hread
  | _ =>
    show (schema _).map some = _
    rw [hread]
    rfl

theorem ReadAs.absent : ReadAs (nullableSchema schema) .null none := by
  intro _ h
  cases h
  rfl

theorem ReadAs.nullable {encode : α → Json} (hnull : schema .null = none) :
    ∀ value : Option α, (∀ a ∈ value, ReadAs schema (encode a) a) →
      ReadAs (nullableSchema schema) (ofNullable encode value) value
  | none,_ => ReadAs.absent
  | some a,h => (h a rfl).present hnull

theorem ReadAs.tuple {second : Schema β} {j' : Json} {b : β} (h : ReadAs schema j a)
    (h' : ReadAs second j' b) :
    ReadAs (tupleSchema schema second) (.array [j,j']) (a,b) := by
  intro _ hs
  cases hs with
  | array hitems =>
    cases hitems with
    | cons hx hrest =>
      cases hrest with
      | cons hy hnil =>
        cases hnil
        show ((schema _).bind fun a => (second _).map fun b => (a,b)) = _
        rw [h _ hx,h' _ hy]
        rfl

theorem Holds.field {fields stored : List (String × Json)} (hholds : Holds fields stored)
    (key : String) (hmem : (key,j) ∈ fields) (h : ReadAs schema j a) :
    field stored key schema = some a := by
  obtain ⟨j',hlookup,hj⟩ := hholds key j hmem
  rw [Json.field,hlookup,Option.bind_some,h j' hj]

/-- A strict schema reads an object with its keys in any order. -/
theorem ReadAs.strictObject {keys : List String} {read : List (String × Json) → Option α}
    {fields : List (String × Json)} (hkeys : fields.map Prod.fst = keys) (hnodup : keys.Nodup)
    (h : ∀ stored, Holds fields stored → read stored = some a) :
    ReadAs (strictObject keys read) (.object fields) a := by
  intro _ hs
  cases hs with
  | @object _ fields' stored hfields hperm =>
    have hall : stored.all (fun f => decide (f.1 ∈ keys)) = true := by
      rw [List.all_eq_true]
      intro f hf
      have hmem := List.mem_map_of_mem (f := Prod.fst) (hperm.mem_iff.mpr hf)
      rw [hfields.keys,hkeys] at hmem
      exact decide_eq_true hmem
    have hholds := hfields.holds (hkeys ▸ hnodup) hperm
    show (if _ then read stored else none) = _
    rw [if_pos hall,h stored hholds]

end ReadAs

end Json

end CluChess
