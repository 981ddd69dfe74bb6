import CluChess.GameplayRepository
import CluChess.JsonSchema
import Mathlib.Data.List.Range
import Mathlib.Tactic.Ring

/-! The texts of UUIDs: the pattern of `z.uuidv4()`, the value that a text denotes, and the text
that is written for a value. -/
namespace CluChess

def hexValue (c : Char) : ℕ :=
  if c.toNat < 58 then c.toNat - 48 else if c.toNat < 71 then c.toNat - 55 else c.toNat - 87

def hexDigit (n : ℕ) : Char := if n < 10 then Char.ofNat (48 + n) else Char.ofNat (87 + n)

def isHexDigit (c : Char) : Bool := c ∈ "0123456789abcdefABCDEF".toList

/-- The positions of the hyphens. -/
def hyphens : List ℕ := [8,13,18,23]

/-- What the pattern allows at a position. -/
def uuidV4Char (index : ℕ) (c : Char) : Bool :=
  if index ∈ hyphens then decide (c = '-')
  else if index = 14 then decide (c = '4')
  else if index = 19 then c ∈ ['8','9','a','b','A','B']
  else isHexDigit c

def isUuidV4Text (s : String) : Bool :=
  decide (s.toList.length = 36) && s.toList.zipIdx.all fun (c,index) => uuidV4Char index c

def ofDigits (digits : List ℕ) : ℕ := digits.foldl (fun n d => 16*n + d) 0

/-- The value of the text of a UUID; the letter case and the hyphens make no difference. -/
def uuidOf (s : String) : Uuid :=
  ofDigits ((s.toList.filter fun c => decide (c ≠ '-')).map hexValue)

def digitsOf : ℕ → ℕ → List ℕ
  | 0,_ => []
  | count + 1,n => digitsOf count (n/16) ++ [n % 16]

/-- The number of the digit at a position of the text. -/
def digitIndex (index : ℕ) : ℕ := index - hyphens.countP fun h => decide (h < index)

/-- The character at a position of the text that is written for a UUID. -/
def uuidChar (digits : List ℕ) (index : ℕ) : Char :=
  if index ∈ hyphens then '-' else hexDigit (digits.getD (digitIndex index) 0)

def uuidText (id : Uuid) : String :=
  String.ofList ((List.range 36).map (uuidChar (digitsOf 32 id)))

section Digits

@[simp] theorem digitsOf_length (count n : ℕ) : (digitsOf count n).length = count := by
  induction count generalizing n with
  | zero => rfl
  | succ count ih => rw [digitsOf,List.length_append,ih,List.length_singleton]

theorem digitsOf_lt {count n d : ℕ} (h : d ∈ digitsOf count n) : d < 16 := by
  induction count generalizing n with
  | zero => cases h
  | succ count ih =>
    rcases List.mem_append.mp h with h | h
    · exact ih h
    · rw [List.mem_singleton.mp h]
      exact Nat.mod_lt _ (by decide)

theorem ofDigits_append (digits : List ℕ) (d : ℕ) :
    ofDigits (digits ++ [d]) = 16*ofDigits digits + d := by
  unfold ofDigits
  rw [List.foldl_append]
  rfl

theorem ofDigits_digitsOf {count n : ℕ} (h : n < 16^count) : ofDigits (digitsOf count n) = n := by
  induction count generalizing n with
  | zero => exact (Nat.lt_one_iff.mp h).symm
  | succ count ih =>
    have hquotient : n/16 < 16^count := by
      rw [pow_succ] at h
      omega
    rw [digitsOf,ofDigits_append,ih hquotient]
    omega

theorem ofDigits_lt {digits : List ℕ} (h : ∀ d ∈ digits, d < 16) :
    ofDigits digits < 16^digits.length := by
  induction digits using List.reverseRecOn with
  | nil => exact Nat.one_pos
  | append_singleton digits d ih =>
    have hlt := ih fun d hd => h d (List.mem_append_left _ hd)
    have hd : d < 16 := h d (by simp)
    rw [ofDigits_append,List.length_append,List.length_singleton,pow_succ]
    omega

theorem digitsOf_ofDigits {digits : List ℕ} (h : ∀ d ∈ digits, d < 16) :
    digitsOf digits.length (ofDigits digits) = digits := by
  induction digits using List.reverseRecOn with
  | nil => rfl
  | append_singleton digits d ih =>
    have hd : d < 16 := h d (by simp)
    have hquotient : (16*ofDigits digits + d)/16 = ofDigits digits := by omega
    have hrest : (16*ofDigits digits + d) % 16 = d := by omega
    rw [List.length_append,List.length_singleton,digitsOf,ofDigits_append,hquotient,hrest,
      ih fun d hd => h d (List.mem_append_left _ hd)]

theorem digitsOf_getElem {count n k : ℕ} (hk : k < count) :
    (digitsOf count n)[k]? = some (n/16^(count - 1 - k) % 16) := by
  induction count generalizing n with
  | zero => cases hk
  | succ count ih =>
    rw [digitsOf]
    by_cases hlast : k = count
    · rw [hlast,List.getElem?_append_right (by simp)]
      simp
    · have hlt : k < count := by omega
      rw [List.getElem?_append_left (by simpa using hlt),ih hlt,Nat.div_div_eq_div_mul]
      have hpow : 16*16^(count - 1 - k) = 16^(count + 1 - 1 - k) := by
        rw [← pow_succ']
        congr 1
        omega
      rw [hpow]

end Digits

section Text

theorem filter_hyphens : ((List.range 36).filter fun k => decide (k ∉ hyphens)).map digitIndex =
    List.range 32 := by decide

theorem hexDigit_value {d : ℕ} (h : d < 16) : hexValue (hexDigit d) = d ∧ hexDigit d ≠ '-' ∧
    isHexDigit (hexDigit d) = true := by
  revert d
  decide

theorem getD_lt {digits : List ℕ} (h : ∀ d ∈ digits, d < 16) (k : ℕ) :
    digits.getD k 0 < 16 := by
  rw [List.getD_eq_getElem?_getD]
  cases hget : digits[k]? with
  | none => exact Nat.zero_lt_succ _
  | some d => exact h d (List.mem_of_getElem? hget)

theorem map_getD_range {α : Type*} {l : List α} {count : ℕ} (a : α) (h : l.length = count) :
    (List.range count).map (fun k => l.getD k a) = l := by
  subst h
  apply List.ext_getElem (by simp)
  intro k hk _
  rw [List.length_map,List.length_range] at hk
  rw [List.getElem_map,List.getElem_range,List.getD_eq_getElem?_getD,
    List.getElem?_eq_getElem hk,Option.getD_some]

theorem uuidChar_hyphen {digits : List ℕ} (h : ∀ d ∈ digits, d < 16) (k : ℕ) :
    uuidChar digits k = '-' ↔ k ∈ hyphens := by
  unfold uuidChar
  split_ifs with hk
  · exact iff_of_true rfl hk
  · exact iff_of_false (hexDigit_value (getD_lt h _)).2.1 hk

theorem filter_map_uuidChar {digits : List ℕ} (h : ∀ d ∈ digits, d < 16) :
    ((List.range 36).map (uuidChar digits)).filter (fun c => decide (c ≠ '-')) =
      ((List.range 36).filter fun k => decide (k ∉ hyphens)).map (uuidChar digits) := by
  rw [List.filter_map]
  congr 1
  apply List.filter_congr
  intro k _
  rw [Function.comp_apply,decide_eq_decide,Ne,uuidChar_hyphen h]

theorem hexValue_uuidChar {digits : List ℕ} (h : ∀ d ∈ digits, d < 16) {k : ℕ}
    (hk : k ∉ hyphens) : hexValue (uuidChar digits k) = digits.getD (digitIndex k) 0 := by
  rw [uuidChar,if_neg hk,(hexDigit_value (getD_lt h _)).1]

theorem values_uuidChar {digits : List ℕ} (h : ∀ d ∈ digits, d < 16)
    (hlength : digits.length = 32) :
    ((((List.range 36).map (uuidChar digits)).filter fun c => decide (c ≠ '-')).map hexValue) =
      digits := by
  have hvalue : ∀ k ∈ (List.range 36).filter fun k => decide (k ∉ hyphens),
      (hexValue ∘ uuidChar digits) k = ((fun i => digits.getD i 0) ∘ digitIndex) k := by
    intro k hk
    exact hexValue_uuidChar h (of_decide_eq_true (List.mem_filter.mp hk).2)
  rw [filter_map_uuidChar h,List.map_map,List.map_congr_left hvalue,← List.map_map,filter_hyphens,
    map_getD_range 0 hlength]

theorem uuidOf_uuidText {id : Uuid} (h : isUuidV4 id = true) : uuidOf (uuidText id) = id := by
  simp only [isUuidV4,Bool.and_eq_true,decide_eq_true_eq] at h
  have hdigits : ∀ d ∈ digitsOf 32 id, d < 16 := fun _ => digitsOf_lt
  rw [uuidOf,uuidText,String.toList_ofList,values_uuidChar hdigits (digitsOf_length 32 id)]
  apply ofDigits_digitsOf
  calc id < 2^128 := h.1.1
    _ = 16^32 := by norm_num

theorem isUuidV4Text_iff {s : String} : isUuidV4Text s = true ↔
    s.toList.length = 36 ∧ ∀ k c, s.toList[k]? = some c → uuidV4Char k c = true := by
  unfold isUuidV4Text
  rw [Bool.and_eq_true,decide_eq_true_eq,List.all_eq_true]
  refine and_congr_right fun _ => ?_
  constructor
  · intro h k c hk
    exact h (c,k) (List.mem_zipIdx_iff_getElem?.mpr hk)
  · rintro h ⟨c,k⟩ hmem
    exact h k c (List.mem_zipIdx_iff_getElem?.mp hmem)

/-- The two upper bits of the digit that carries the variant. -/
theorem variantDigit {n : ℕ} (h : n/2^62 % 4 = 2) : n/16^15 % 16 ∈ [8,9,10,11] := by
  norm_num at h ⊢
  omega

theorem isUuidV4Text_uuidText {id : Uuid} (h : isUuidV4 id = true) :
    isUuidV4Text (uuidText id) = true := by
  simp only [isUuidV4,Bool.and_eq_true,decide_eq_true_eq] at h
  have hdigits : ∀ d ∈ digitsOf 32 id, d < 16 := fun _ => digitsOf_lt
  have hversion : (digitsOf 32 id).getD 12 0 = 4 := by
    rw [List.getD_eq_getElem?_getD,digitsOf_getElem (by decide)]
    exact h.1.2
  have hvariant : (digitsOf 32 id).getD 16 0 ∈ [8,9,10,11] := by
    rw [List.getD_eq_getElem?_getD,digitsOf_getElem (by decide),Option.getD_some]
    exact variantDigit h.2
  rw [isUuidV4Text_iff,uuidText,String.toList_ofList]
  refine ⟨by simp,fun k c hk => ?_⟩
  rw [List.getElem?_map,Option.map_eq_some_iff] at hk
  obtain ⟨j,hj,rfl⟩ := hk
  obtain ⟨hlt,hj⟩ := List.getElem?_eq_some_iff.mp hj
  rw [List.getElem_range] at hj
  subst hj
  unfold uuidV4Char uuidChar
  split_ifs with hhyphen hfourteen hnineteen
  · rfl
  · rw [hfourteen,show digitIndex 14 = 12 from rfl,hversion]
    rfl
  · rw [hnineteen,show digitIndex 19 = 16 from rfl]
    generalize (digitsOf 32 id).getD 16 0 = d at hvariant
    revert d
    decide
  · exact (hexDigit_value (getD_lt hdigits _)).2.2

/-- The characters of a text that matches the pattern, at the positions of the digits. -/
theorem filter_uuidV4 {s : String} (h : isUuidV4Text s = true) :
    s.toList.filter (fun c => decide (c ≠ '-')) =
      ((List.range 36).filter fun k => decide (k ∉ hyphens)).map fun k => s.toList.getD k ' ' := by
  obtain ⟨hlength,hchars⟩ := isUuidV4Text_iff.mp h
  have hdash : isHexDigit '-' = false := by decide
  conv_lhs => rw [← map_getD_range ' ' hlength,List.filter_map]
  congr 1
  apply List.filter_congr
  intro k hk
  have hk : k < s.toList.length := by rw [hlength]; exact List.mem_range.mp hk
  have hc := hchars k _ (List.getElem?_eq_getElem hk)
  rw [Function.comp_apply,decide_eq_decide,Ne,List.getD_eq_getElem?_getD,
    List.getElem?_eq_getElem hk,Option.getD_some]
  refine not_congr ⟨fun hhyphen => ?_,fun hmem => ?_⟩
  · by_contra hmem
    rw [hhyphen,uuidV4Char,if_neg hmem] at hc
    split_ifs at hc
    · exact absurd hc (by decide)
    · exact absurd hc (by decide)
    · rw [hdash] at hc
      cases hc
  · rw [uuidV4Char,if_pos hmem] at hc
    exact of_decide_eq_true hc

theorem hexValue_lt {c : Char} (h : isHexDigit c = true) : hexValue c < 16 := by
  have hall : ("0123456789abcdefABCDEF".toList.all fun c => decide (hexValue c < 16)) = true := by
    decide
  exact of_decide_eq_true (List.all_eq_true.mp hall c (of_decide_eq_true h))

theorem variantBits {n : ℕ} (h : n/16^15 % 16 ∈ [8,9,10,11]) : n/2^62 % 4 = 2 := by
  norm_num at h ⊢
  omega

theorem isUuidV4_uuidOf {s : String} (h : isUuidV4Text s = true) : isUuidV4 (uuidOf s) = true := by
  obtain ⟨hlength,hchars⟩ := isUuidV4Text_iff.mp h
  have hget : ∀ k, k < 36 → uuidV4Char k (s.toList.getD k ' ') = true := by
    intro k hk
    rw [List.getD_eq_getElem?_getD,List.getElem?_eq_getElem (hlength ▸ hk),Option.getD_some]
    exact hchars k _ (List.getElem?_eq_getElem _)
  let positions := (List.range 36).filter fun k => decide (k ∉ hyphens)
  let digits := positions.map fun k => hexValue (s.toList.getD k ' ')
  have huuid : uuidOf s = ofDigits digits := by
    rw [uuidOf,filter_uuidV4 h,List.map_map]
    rfl
  have hcount : digits.length = 32 := by
    rw [List.length_map]
    decide
  have hvariants : (['8','9','a','b','A','B'].all isHexDigit) = true := by decide
  have hdigits : ∀ d ∈ digits, d < 16 := by
    intro d hd
    obtain ⟨k,hk,rfl⟩ := List.mem_map.mp hd
    obtain ⟨hk,hhyphen⟩ := List.mem_filter.mp hk
    have hc := hget k (List.mem_range.mp hk)
    rw [uuidV4Char,if_neg (of_decide_eq_true hhyphen)] at hc
    refine hexValue_lt ?_
    split_ifs at hc
    · rw [of_decide_eq_true hc]
      decide
    · exact List.all_eq_true.mp hvariants _ (of_decide_eq_true hc)
    · exact hc
  have hdigit : ∀ k position : ℕ, positions[k]? = some position →
      uuidOf s/16^(31 - k) % 16 = hexValue (s.toList.getD position ' ') := by
    intro k position hk
    have hlt : k < 32 := (List.getElem?_eq_some_iff.mp hk).1
    have hread := digitsOf_getElem (n := ofDigits digits) hlt
    rw [← hcount,digitsOf_ofDigits hdigits,List.getElem?_map,hk,hcount] at hread
    rw [huuid]
    exact (Option.some.inj hread).symm
  have hversion : uuidOf s/16^19 % 16 = 4 := by
    have hc : s.toList.getD 14 ' ' = '4' := of_decide_eq_true (hget 14 (by decide))
    rw [hdigit 12 14 (by decide),hc]
    decide
  have hvariant : uuidOf s/16^15 % 16 ∈ [8,9,10,11] := by
    have hc : s.toList.getD 19 ' ' ∈ ['8','9','a','b','A','B'] :=
      of_decide_eq_true (hget 19 (by decide))
    rw [hdigit 16 19 (by decide)]
    generalize s.toList.getD 19 ' ' = c at hc
    simp only [List.mem_cons,List.not_mem_nil,or_false] at hc
    rcases hc with rfl | rfl | rfl | rfl | rfl | rfl <;> decide
  have hlt := ofDigits_lt hdigits
  rw [hcount,← huuid] at hlt
  simp only [isUuidV4,Bool.and_eq_true,decide_eq_true_eq]
  refine ⟨⟨?_,?_⟩,?_⟩
  · calc uuidOf s < 16^32 := hlt
      _ = 2^128 := by norm_num
  · norm_num at hversion ⊢
    exact hversion
  · exact variantBits hvariant

open Json in
/-- The schema of a UUID reads the text that is written for it. -/
theorem Json.ReadAs.uuid {id : Uuid} (h : isUuidV4 id = true) :
    ReadAs (fun j => (textSchema isUuidV4Text j).map uuidOf) (.text (uuidText id)) id := by
  have hread := (ReadAs.text (isUuidV4Text_uuidText h)).map (f := uuidOf)
  rw [uuidOf_uuidText h] at hread
  exact hread

end Text

end CluChess
