import CluChess.JsonSchema

/-! Schemas together with the values that they admit and the JSON that is written for these: a
schema reads exactly the stored forms of what is written. -/
namespace CluChess

namespace Json

mutual

/-- The keys of each object are distinct, as in what `JSON.parse` gives. -/
def distinct : Json → Bool
  | .array items => distinctItems items
  | .object fields => decide (fields.map Prod.fst).Nodup && distinctFields fields
  | _ => true

def distinctItems : List Json → Bool
  | [] => true
  | j :: items => distinct j && distinctItems items

def distinctFields : List (String × Json) → Bool
  | [] => true
  | (_,j) :: fields => distinct j && distinctFields fields

end

/-- The value of a property that an object has. -/
def property (j : Json) (key : String) : Option Json :=
  match j with
  | .object fields => fields.lookup key
  | _ => none

def equalsNumber (n : ℤ) : Json → Bool
  | .number m => decide (m = n)
  | _ => false

def equalsText (s : String) : Json → Bool
  | .text s' => decide (s' = s)
  | _ => false

def equalsBoolean (b : Bool) : Json → Bool
  | .boolean b' => decide (b' = b)
  | _ => false

@[simp] theorem equalsNumber_number (n m : ℤ) :
    equalsNumber n (.number m) = decide (m = n) := rfl

@[simp] theorem equalsText_text (s s' : String) : equalsText s (.text s') = decide (s' = s) := rfl

theorem equalsNumber_iff (n : ℤ) (j : Json) : equalsNumber n j = true ↔ Stored (.number n) j := by
  constructor
  · intro h
    cases j with
    | number m =>
      rw [of_decide_eq_true h]
      exact .number n
    | _ => cases h
  · intro h
    cases h
    exact decide_eq_true rfl

theorem equalsText_iff (s : String) (j : Json) : equalsText s j = true ↔ Stored (.text s) j := by
  constructor
  · intro h
    cases j with
    | text s' =>
      rw [of_decide_eq_true h]
      exact .text s
    | _ => cases h
  · intro h
    cases h
    exact decide_eq_true rfl

theorem equalsBoolean_iff (b : Bool) (j : Json) :
    equalsBoolean b j = true ↔ Stored (.boolean b) j := by
  constructor
  · intro h
    cases j with
    | boolean b' =>
      rw [of_decide_eq_true h]
      exact .boolean b
    | _ => cases h
  · intro h
    cases h
    exact decide_eq_true rfl

/-- An absent field, or a field and its stored form. -/
abbrev Agree : Option Json → Option Json → Prop := Option.Rel Stored

theorem agree_some {j j' : Json} : Agree (some j) (some j') ↔ Stored j j' :=
  ⟨fun h => by cases h; assumption,.some⟩

section Objects

variable {fields fields' stored : List (String × Json)} {key : String} {j : Json}

theorem mem_of_lookup (h : fields.lookup key = some j) : (key,j) ∈ fields := by
  obtain ⟨before,after,rfl,_⟩ := List.lookup_eq_some_iff.mp h
  exact List.mem_append_right _ List.mem_cons_self

theorem lookup_eq_none (h : key ∉ fields.map Prod.fst) : fields.lookup key = none := by
  cases hlookup : fields.lookup key with
  | none => rfl
  | some j => exact absurd (List.mem_map_of_mem (f := Prod.fst) (mem_of_lookup hlookup)) h

theorem distinct_of_lookup (h : distinctFields fields = true)
    (hlookup : fields.lookup key = some j) : distinct j = true := by
  have hmem := mem_of_lookup hlookup
  induction fields with
  | nil => cases hmem
  | cons f fields ih =>
    obtain ⟨key',j'⟩ := f
    simp only [distinctFields,Bool.and_eq_true] at h
    by_cases hkey : key = key'
    · subst hkey
      rw [List.lookup_cons_self] at hlookup
      cases hlookup
      exact h.1
    · rw [List.lookup_cons,beq_false_of_ne hkey] at hlookup
      exact ih h.2 hlookup (mem_of_lookup hlookup)

/-- With distinct keys their order makes no difference to a lookup. -/
theorem lookup_perm (hkeys : (fields.map Prod.fst).Nodup) (hperm : fields.Perm stored)
    (key : String) : fields.lookup key = stored.lookup key := by
  have hnodup := (hperm.map Prod.fst).nodup_iff.mp hkeys
  cases hlookup : stored.lookup key with
  | some j => exact lookup_of_mem hkeys (hperm.mem_iff.mpr (mem_of_lookup hlookup))
  | none =>
    cases hfields : fields.lookup key with
    | none => rfl
    | some j =>
      rw [lookup_of_mem hnodup (hperm.mem_iff.mp (mem_of_lookup hfields))] at hlookup
      cases hlookup

theorem StoredFields.lookup (h : StoredFields fields fields') (key : String) :
    Agree (fields.lookup key) (fields'.lookup key) := by
  induction fields generalizing fields' with
  | nil =>
    cases h
    exact .none
  | cons f fields ih =>
    cases h with
    | cons key' hj hrest =>
      by_cases hkey : key = key'
      · rw [hkey,List.lookup_cons_self,List.lookup_cons_self]
        exact .some hj
      · rw [List.lookup_cons,List.lookup_cons,beq_false_of_ne hkey]
        exact ih hrest

theorem storedFields_map {stored : String → Json}
    (h : ∀ f ∈ fields, Stored f.2 (stored f.1)) :
    StoredFields fields (fields.map fun f => (f.1,stored f.1)) := by
  induction fields with
  | nil => exact .nil
  | cons f fields ih =>
    exact .cons f.1 (h f List.mem_cons_self) (ih fun f hf => h f (List.mem_cons_of_mem _ hf))

/-- Objects with distinct keys are compared key by key. -/
theorem stored_object_iff (hkeys : (fields.map Prod.fst).Nodup)
    (hstored : (stored.map Prod.fst).Nodup) : Stored (.object fields) (.object stored) ↔
      ∀ key, Agree (fields.lookup key) (stored.lookup key) := by
  constructor
  · intro h key
    cases h with
    | @object _ fields' _ hfields hperm =>
      have hnodup : (fields'.map Prod.fst).Nodup := hfields.keys ▸ hkeys
      rw [← lookup_perm hnodup hperm key]
      exact hfields.lookup key
  · intro h
    have hvalue : ∀ f ∈ fields, ∃ j', stored.lookup f.1 = some j' ∧ Stored f.2 j' := by
      intro f hf
      have hagree := h f.1
      rw [lookup_of_mem hkeys hf] at hagree
      cases hlookup : stored.lookup f.1 with
      | none => rw [hlookup] at hagree; cases hagree
      | some j' =>
        rw [hlookup] at hagree
        cases hagree with
        | some hj => exact ⟨j',rfl,hj⟩
    let value := fun key => (stored.lookup key).getD .null
    have hfields : StoredFields fields (fields.map fun f => (f.1,value f.1)) := by
      refine storedFields_map fun f hf => ?_
      obtain ⟨j',hlookup,hj⟩ := hvalue f hf
      show Stored f.2 ((stored.lookup f.1).getD .null)
      rw [hlookup]
      exact hj
    refine .object hfields ((List.perm_ext_iff_of_nodup ?_ hstored.of_map).mpr ?_)
    · exact List.Nodup.of_map Prod.fst (hfields.keys ▸ hkeys)
    · rintro ⟨key,j⟩
      rw [List.mem_map]
      constructor
      · rintro ⟨f,hf,heq⟩
        obtain ⟨j',hlookup,_⟩ := hvalue f hf
        cases heq
        show (f.1,(stored.lookup f.1).getD .null) ∈ stored
        rw [hlookup]
        exact mem_of_lookup hlookup
      · intro hmem
        have hlookup := lookup_of_mem hstored hmem
        have hagree := h key
        rw [hlookup] at hagree
        cases hfield : fields.lookup key with
        | none => rw [hfield] at hagree; cases hagree
        | some j' =>
          refine ⟨(key,j'),mem_of_lookup hfield,?_⟩
          show (key,(stored.lookup key).getD .null) = (key,j)
          rw [hlookup]
          rfl

/-- The properties of the stored forms are the fields of the object. -/
theorem Stored.property_agree {j' : Json} (h : Stored (.object fields) j')
    (hkeys : (fields.map Prod.fst).Nodup) (key : String) :
    Agree (fields.lookup key) (j'.property key) := by
  cases h with
  | @object _ fields' stored hfields hperm =>
    show Agree _ (stored.lookup key)
    rw [← lookup_perm (hfields.keys ▸ hkeys) hperm key]
    exact hfields.lookup key

end Objects

/-- A schema, the values that it admits and the JSON that is written for them. -/
structure Codec (α : Type) where
  schema : Schema α
  encode : α → Json
  valid : α → Bool
  exact : ∀ {a j}, distinct j = true →
    (schema j = some a ↔ valid a = true ∧ Stored (encode a) j)

/-- Some of the fields of an object. -/
structure Fields (α : Type) where
  keys : List String
  read : List (String × Json) → Option α
  write : α → List (String × Json)
  valid : α → Bool
  write_keys : ∀ a, ((write a).map Prod.fst).Sublist keys
  exact : ∀ {a fields}, distinctFields fields = true → (read fields = some a ↔
    valid a = true ∧ ∀ key ∈ keys, Agree ((write a).lookup key) (fields.lookup key))

namespace Codec

variable {α : Type}

def text (valid : String → Bool) : Codec String where
  schema := textSchema valid
  encode := .text
  valid := valid
  exact := by
    intro a j _
    constructor
    · intro h
      cases j with
      | text s =>
        by_cases hs : valid s = true
        · rw [textSchema,if_pos hs] at h
          cases h
          exact ⟨hs,.text _⟩
        · rw [textSchema,if_neg hs] at h
          cases h
      | _ => cases h
    · rintro ⟨hvalid,hstored⟩
      exact ReadAs.text hvalid _ hstored

/-- A natural number; `valid` is asked of a number that is not negative. -/
def natural (valid : ℕ → Bool) : Codec ℕ where
  schema j := (numberSchema (fun n => decide (0 ≤ n) && valid n.toNat) j).map Int.toNat
  encode n := .number n
  valid := valid
  exact := by
    intro a j _
    constructor
    · intro h
      obtain ⟨n,hn,rfl⟩ := Option.map_eq_some_iff.mp h
      cases j with
      | number m =>
        by_cases hm : (decide (0 ≤ m) && valid m.toNat) = true
        · rw [numberSchema,if_pos hm] at hn
          cases hn
          obtain ⟨hpos,hvalid⟩ := Bool.and_eq_true_iff.mp hm
          rw [Int.toNat_of_nonneg (of_decide_eq_true hpos)]
          exact ⟨hvalid,.number _⟩
        · rw [numberSchema,if_neg hm] at hn
          cases hn
      | _ => cases hn
    · rintro ⟨hvalid,hstored⟩
      cases hstored
      simp [numberSchema,hvalid]

def boolean : Codec Bool where
  schema := booleanSchema
  encode := .boolean
  valid _ := true
  exact := by
    intro a j _
    constructor
    · intro h
      cases j with
      | boolean b =>
        cases h
        exact ⟨rfl,.boolean _⟩
      | _ => cases h
    · rintro ⟨_,hstored⟩
      exact ReadAs.boolean a _ hstored

/-- `z.literal`: the one value that passes the test. -/
def constant (value : Json) (test : Json → Bool) (htest : ∀ j, test j = true ↔ Stored value j) :
    Codec Unit where
  schema j := if test j then some () else none
  encode _ := value
  valid _ := true
  exact := by
    intro a j _
    by_cases hj : test j = true
    · simp [hj,(htest j).mp hj]
    · simp [hj,← htest j]

/-- One of the texts that name some values. -/
def enum (name : α → String) (all : List α)
    (hall : ∀ a, all.find? (fun b => decide (name b = name a)) = some a) : Codec α where
  schema
    | .text s => all.find? fun b => decide (name b = s)
    | _ => none
  encode a := .text (name a)
  valid _ := true
  exact := by
    intro a j _
    constructor
    · intro h
      cases j with
      | text s =>
        have hname : decide (name a = s) = true :=
          List.find?_some (p := fun b => decide (name b = s)) h
        rw [← of_decide_eq_true hname]
        exact ⟨rfl,.text _⟩
      | _ => cases h
    · rintro ⟨_,hstored⟩
      cases hstored
      exact hall a

end Codec

namespace Fields

variable {α β : Type}

theorem lookup_none (f : Fields α) (a : α) {key : String} (h : key ∉ f.keys) :
    (f.write a).lookup key = none :=
  lookup_eq_none fun hmem => h ((f.write_keys a).subset hmem)

def empty : Fields Unit where
  keys := []
  read _ := some ()
  write _ := []
  valid _ := true
  write_keys _ := .refl _
  exact := by simp

def required (key : String) (codec : Codec α) : Fields α where
  keys := [key]
  read fields := field fields key codec.schema
  write a := [(key,codec.encode a)]
  valid := codec.valid
  write_keys _ := .refl _
  exact := by
    intro a fields hfields
    rw [List.forall_mem_singleton,List.lookup_cons_self,field]
    cases hlookup : fields.lookup key with
    | none =>
      constructor
      · intro h
        cases h
      · rintro ⟨_,h⟩
        cases h
    | some j =>
      rw [Option.bind_some,codec.exact (distinct_of_lookup hfields hlookup),agree_some]

def optionalField (fields : List (String × Json)) (key : String) (schema : Schema α) :
    Option (Option α) :=
  match fields.lookup key with
  | none => some none
  | some j => (schema j).map some

/-- `.optional()`: the field may be absent, but is not `null`. -/
def optional (key : String) (codec : Codec α) : Fields (Option α) where
  keys := [key]
  read fields := optionalField fields key codec.schema
  write value := value.toList.map fun a => (key,codec.encode a)
  valid value := value.all codec.valid
  write_keys value := by cases value <;> simp
  exact := by
    intro value fields hfields
    rw [List.forall_mem_singleton,optionalField]
    cases hlookup : fields.lookup key with
    | none => cases value <;> simp
    | some j =>
      have hexact := fun a => codec.exact (a := a) (distinct_of_lookup hfields hlookup)
      cases value <;> simp [hexact]

@[simp] theorem empty_valid : empty.valid = fun _ => true := rfl

@[simp] theorem required_valid (key : String) (codec : Codec α) :
    (required key codec).valid = codec.valid := rfl

@[simp] theorem optional_valid (key : String) (codec : Codec α) (value : Option α) :
    (optional key codec).valid value = value.all codec.valid := rfl

theorem lookup_append_left {fields fields' : List (String × Json)} {key : String}
    (h : fields'.lookup key = none) : (fields ++ fields').lookup key = fields.lookup key := by
  rw [List.lookup_append,h,Option.or_none]

theorem lookup_append_right {fields fields' : List (String × Json)} {key : String}
    (h : fields.lookup key = none) : (fields ++ fields').lookup key = fields'.lookup key := by
  rw [List.lookup_append,h,Option.none_or]

/-- The fields of both, under different keys. -/
def and (f : Fields α) (g : Fields β) (hkeys : ∀ key ∈ f.keys, key ∉ g.keys) : Fields (α × β) where
  keys := f.keys ++ g.keys
  read fields := (f.read fields).bind fun a => (g.read fields).map fun b => (a,b)
  write value := f.write value.1 ++ g.write value.2
  valid value := f.valid value.1 && g.valid value.2
  write_keys value := by
    rw [List.map_append]
    exact (f.write_keys value.1).append (g.write_keys value.2)
  exact := by
    rintro ⟨a,b⟩ fields hfields
    have hread : ((f.read fields).bind fun a => (g.read fields).map fun b => (a,b)) = some (a,b) ↔
        f.read fields = some a ∧ g.read fields = some b := by
      cases f.read fields <;> cases g.read fields <;> simp
    have hleft : ∀ key ∈ f.keys,
        (f.write a ++ g.write b).lookup key = (f.write a).lookup key := fun key hkey =>
      lookup_append_left (g.lookup_none b (hkeys key hkey))
    have hright : ∀ key ∈ g.keys,
        (f.write a ++ g.write b).lookup key = (g.write b).lookup key := fun key hkey =>
      lookup_append_right (f.lookup_none a fun hf => hkeys key hf hkey)
    rw [hread,f.exact hfields,g.exact hfields,Bool.and_eq_true,List.forall_mem_append]
    constructor
    · rintro ⟨⟨ha,hf⟩,hb,hg⟩
      exact ⟨⟨ha,hb⟩,fun key hkey => (hleft key hkey).symm ▸ hf key hkey,
        fun key hkey => (hright key hkey).symm ▸ hg key hkey⟩
    · rintro ⟨⟨ha,hb⟩,hf,hg⟩
      exact ⟨⟨ha,fun key hkey => hleft key hkey ▸ hf key hkey⟩,hb,
        fun key hkey => hright key hkey ▸ hg key hkey⟩

/-- The fields of the values that `into` builds. -/
def embed (f : Fields α) (into : α → β) (out : β → Option α)
    (hout : ∀ a b, out b = some a ↔ into a = b) : Fields β where
  keys := f.keys
  read fields := (f.read fields).map into
  write b := (out b).elim [] f.write
  valid b := (out b).any f.valid
  write_keys b := by
    cases out b with
    | none => exact List.nil_sublist _
    | some a => exact f.write_keys a
  exact := by
    intro b fields hfields
    rw [Option.map_eq_some_iff]
    constructor
    · rintro ⟨a,hread,hinto⟩
      rw [(hout a b).mpr hinto]
      exact (f.exact hfields).mp hread
    · intro h
      cases hb : out b with
      | none =>
        rw [hb] at h
        cases h.1
      | some a =>
        rw [hb] at h
        exact ⟨a,(f.exact hfields).mpr h,(hout a b).mp hb⟩

/-- Fields with a field that has one value only. -/
def tagged (f : Fields α) (tag : Fields Unit) (hkeys : ∀ key ∈ tag.keys, key ∉ f.keys) :
    Fields α :=
  (tag.and f hkeys).embed Prod.snd (fun a => some ((),a)) (by simp [eq_comm])

/-- What is written of a field is a property of the stored forms. -/
theorem stored_property (f : Fields α) (hkeys : f.keys.Nodup) {a : α} {j j' : Json} {key : String}
    (h : Stored (.object (f.write a)) j') (hmem : (key,j) ∈ f.write a) :
    ∃ j'', j'.property key = some j'' ∧ Stored j j'' := by
  have hwrite := hkeys.sublist (f.write_keys a)
  have hagree := h.property_agree hwrite key
  rw [lookup_of_mem hwrite hmem] at hagree
  generalize j'.property key = value at hagree
  cases hagree with
  | some hj => exact ⟨_,rfl,hj⟩

@[simp] theorem and_valid (f : Fields α) (g : Fields β)
    (hkeys : ∀ key ∈ f.keys, key ∉ g.keys) (value : α × β) :
    (f.and g hkeys).valid value = (f.valid value.1 && g.valid value.2) := rfl

@[simp] theorem embed_valid (f : Fields α) (into : α → β) (out : β → Option α)
    (hout : ∀ a b, out b = some a ↔ into a = b) (b : β) :
    (f.embed into out hout).valid b = (out b).any f.valid := rfl

@[simp] theorem tagged_valid (f : Fields α) (tag : Fields Unit)
    (hkeys : ∀ key ∈ tag.keys, key ∉ f.keys) (a : α) :
    (f.tagged tag hkeys).valid a = (tag.valid () && f.valid a) := rfl

end Fields

namespace Codec

variable {α τ : Type}

def literal (s : String) : Codec Unit := .constant (.text s) (equalsText s) (equalsText_iff s)

def integerLiteral (n : ℤ) : Codec Unit :=
  .constant (.number n) (equalsNumber n) (equalsNumber_iff n)

def booleanLiteral (b : Bool) : Codec Unit :=
  .constant (.boolean b) (equalsBoolean b) (equalsBoolean_iff b)

/-- `z.object(…).strict()`. -/
def strict (f : Fields α) (hkeys : f.keys.Nodup) : Codec α where
  schema := strictObject f.keys f.read
  encode a := .object (f.write a)
  valid := f.valid
  exact := by
    intro a j hj
    have hwrite := hkeys.sublist (f.write_keys a)
    constructor
    · intro h
      cases j with
      | object fields =>
        obtain ⟨hnodup,hfields⟩ := Bool.and_eq_true_iff.mp hj
        by_cases hall : (fields.all fun f' => decide (f'.1 ∈ f.keys)) = true
        · rw [strictObject,if_pos hall] at h
          obtain ⟨hvalid,hagree⟩ := (f.exact hfields).mp h
          refine ⟨hvalid,(stored_object_iff hwrite (of_decide_eq_true hnodup)).mpr fun key => ?_⟩
          by_cases hkey : key ∈ f.keys
          · exact hagree key hkey
          · rw [f.lookup_none a hkey,lookup_eq_none]
            · exact .none
            · intro hmem
              obtain ⟨f',hf',rfl⟩ := List.mem_map.mp hmem
              exact hkey (of_decide_eq_true (List.all_eq_true.mp hall f' hf'))
        · rw [strictObject,if_neg hall] at h
          cases h
      | _ => cases h
    · rintro ⟨hvalid,hstored⟩
      cases j with
      | object fields =>
        obtain ⟨hnodup,hfields⟩ := Bool.and_eq_true_iff.mp hj
        have hnodup := of_decide_eq_true hnodup
        have hagree := (stored_object_iff hwrite hnodup).mp hstored
        have hall : (fields.all fun f' => decide (f'.1 ∈ f.keys)) = true := by
          refine List.all_eq_true.mpr fun f' hf' => decide_eq_true ?_
          by_contra hkey
          have hnone := hagree f'.1
          rw [f.lookup_none a hkey,lookup_of_mem hnodup hf'] at hnone
          cases hnone
        rw [strictObject,if_pos hall]
        exact (f.exact hfields).mpr ⟨hvalid,fun key _ => hagree key⟩
      | _ => cases hstored

@[simp] theorem text_valid (valid : String → Bool) : (text valid).valid = valid := rfl

@[simp] theorem natural_valid (valid : ℕ → Bool) : (natural valid).valid = valid := rfl

@[simp] theorem literal_valid (s : String) : (literal s).valid = fun _ => true := rfl

@[simp] theorem integerLiteral_valid (n : ℤ) :
    (integerLiteral n).valid = fun _ => true := rfl

@[simp] theorem booleanLiteral_valid (b : Bool) :
    (booleanLiteral b).valid = fun _ => true := rfl

@[simp] theorem boolean_valid : boolean.valid = fun _ => true := rfl

@[simp] theorem enum_valid (name : α → String) (all : List α)
    (hall : ∀ a, all.find? (fun b => decide (name b = name a)) = some a) :
    (enum name all hall).valid = fun _ => true := rfl

@[simp] theorem strict_valid (f : Fields α) (hkeys : f.keys.Nodup) :
    (strict f hkeys).valid = f.valid := rfl

/-- The fields of an option of `discriminated`, with the text of its discriminator. -/
def optionFields (key : String) (name : τ → String) (rest : τ → Fields α)
    (hkeys : ∀ t, (key :: (rest t).keys).Nodup) (t : τ) : Fields α :=
  (rest t).tagged (.required key (.literal (name t)))
    (List.forall_mem_singleton.mpr (List.nodup_cons.mp (hkeys t)).1)

/-- `z.discriminatedUnion(key, […])`: each option belongs to one text of the field `key`. -/
def discriminated (key : String) (name : τ → String) (all : List τ)
    (hall : ∀ t, all.find? (fun t' => decide (name t' = name t)) = some t) (tag : α → τ)
    (rest : τ → Fields α) (hkeys : ∀ t, (key :: (rest t).keys).Nodup)
    (htag : ∀ t a, (rest t).valid a = true → tag a = t) : Codec α where
  schema j := ((j.property key).bind (enum name all hall).schema).bind fun t =>
    (strict (optionFields key name rest hkeys t) (hkeys t)).schema j
  encode a := .object ((optionFields key name rest hkeys (tag a)).write a)
  valid a := (rest (tag a)).valid a
  exact := by
    intro a j hj
    have hoption := fun t =>
      (strict (optionFields key name rest hkeys t) (hkeys t)).exact (a := a) hj
    constructor
    · intro h
      obtain ⟨t,_,hread⟩ := Option.bind_eq_some_iff.mp h
      obtain ⟨hvalid,hstored⟩ := (hoption t).mp hread
      have hrest : (rest t).valid a = true := hvalid
      rw [htag t a hrest]
      exact ⟨hrest,hstored⟩
    · rintro ⟨hvalid,hstored⟩
      have hread := (hoption (tag a)).mpr ⟨hvalid,hstored⟩
      obtain ⟨j',hproperty,hj'⟩ := (optionFields key name rest hkeys (tag a)).stored_property
        (hkeys (tag a)) hstored List.mem_cons_self
      cases hj'
      show ((j.property key).bind (enum name all hall).schema).bind _ = _
      rw [hproperty,Option.bind_some]
      show (all.find? fun t' => decide (name t' = name (tag a))).bind _ = _
      rw [hall,Option.bind_some,hread]

end Codec

end Json

end CluChess
