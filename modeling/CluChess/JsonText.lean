import CluChess.JsonSchema
import CluChess.WireProtocol

/-! `JSON.stringify`, and the number of bytes that its texts take. -/
namespace CluChess

namespace Json

def unicodeEscape (code : ℕ) : List Char :=
  ['\\','u','0','0',(code/16).digitChar,(code % 16).digitChar]

/-- A character of a string, escaped where it has to be. -/
def escapeChar (c : Char) : List Char :=
  if c = '"' then ['\\','"']
  else if c = '\\' then ['\\','\\']
  else if c.toNat = 8 then ['\\','b']
  else if c.toNat = 9 then ['\\','t']
  else if c.toNat = 10 then ['\\','n']
  else if c.toNat = 12 then ['\\','f']
  else if c.toNat = 13 then ['\\','r']
  else if c.toNat < 32 then unicodeEscape c.toNat
  else [c]

def quote (s : String) : List Char := '"' :: s.toList.flatMap escapeChar ++ ['"']

def integer (n : ℤ) : List Char :=
  if n < 0 then '-' :: Nat.toDigits 10 n.natAbs else Nat.toDigits 10 n.natAbs

mutual

def stringify : Json → List Char
  | .null => "null".toList
  | .boolean b => if b then "true".toList else "false".toList
  | .number n => integer n
  | .fraction s => s.toList
  | .text s => quote s
  | .array items => '[' :: stringifyItems items ++ [']']
  | .object fields => '\x7b' :: stringifyFields fields ++ ['\x7d']

def stringifyItems : List Json → List Char
  | [] => []
  | [j] => stringify j
  | j :: items => stringify j ++ ',' :: stringifyItems items

def stringifyFields : List (String × Json) → List Char
  | [] => []
  | [(key,j)] => quote key ++ ':' :: stringify j
  | (key,j) :: fields => quote key ++ ':' :: stringify j ++ ',' :: stringifyFields fields

end

/-- `Buffer.from(text)`. -/
def utf8 (text : List Char) : List UInt8 := text.flatMap String.utf8EncodeChar

section Length

theorem utf8_append (text text' : List Char) : utf8 (text ++ text') = utf8 text ++ utf8 text' :=
  List.flatMap_append

@[simp] theorem utf8_cons (c : Char) (text : List Char) :
    utf8 (c :: text) = String.utf8EncodeChar c ++ utf8 text := rfl

theorem utf8_length_le (text : List Char) : (utf8 text).length ≤ 4*text.length := by
  induction text with
  | nil => rfl
  | cons c text ih =>
    have hsize := c.utf8Size_le_four
    rw [utf8_cons,List.length_append,String.length_utf8EncodeChar,List.length_cons]
    omega

theorem utf16Units_pos (c : Char) : 1 ≤ utf16Units c := by
  unfold utf16Units
  split_ifs <;> omega

theorem unicodeEscape_length {code : ℕ} (h : code < 32) :
    (utf8 (unicodeEscape code)).length = 6 := by
  revert code
  decide

theorem escapeChar_length (c : Char) : (utf8 (escapeChar c)).length ≤ 6 := by
  unfold escapeChar
  split_ifs with _ _ _ _ _ _ _ hcontrol
  · decide
  · decide
  · decide
  · decide
  · decide
  · decide
  · decide
  · exact (unicodeEscape_length hcontrol).le
  · exact (utf8_length_le [c]).trans (show 4*1 ≤ 6 by decide)

theorem flatMap_escapeChar_length (text : List Char) :
    (utf8 (text.flatMap escapeChar)).length ≤ 6*(text.map utf16Units).sum := by
  induction text with
  | nil => exact Nat.zero_le _
  | cons c text ih =>
    have hc := escapeChar_length c
    have hunits := utf16Units_pos c
    rw [List.flatMap_cons,utf8_append,List.length_append,List.map_cons,List.sum_cons]
    omega

/-- A string takes at most six bytes a unit, and the quotes. -/
theorem quote_length (s : String) : (utf8 (quote s)).length ≤ 6*jsLength s + 2 := by
  have hchars := flatMap_escapeChar_length s.toList
  have hquote : (utf8 ['"']).length = 1 := by decide
  unfold quote jsLength
  rw [← List.singleton_append,List.append_assoc,utf8_append,utf8_append,List.length_append,
    List.length_append,hquote]
  omega

theorem integer_length {n : ℤ} (h : isSafeInteger n = true) : (utf8 (integer n)).length ≤ 68 := by
  have hsafe : n.natAbs < 10^16 := by
    have hle := of_decide_eq_true h
    omega
  have hdigits : (Nat.toDigits 10 n.natAbs).length ≤ 16 :=
    (Nat.length_toDigits_le_iff (by decide) (by decide)).mpr hsafe
  have hlength : (integer n).length ≤ 17 := by
    unfold integer
    split_ifs
    · rw [List.length_cons]
      omega
    · omega
  have hbytes := utf8_length_le (integer n)
  omega

/-- What an object takes: its keys and values, and the signs between them. -/
theorem stringifyFields_length (fields : List (String × Json)) :
    (utf8 (stringifyFields fields)).length ≤
      (fields.map fun f => (utf8 (quote f.1)).length + (utf8 (stringify f.2)).length + 2).sum := by
  have hcolon : (String.utf8EncodeChar ':').length = 1 := by decide
  have hcomma : (String.utf8EncodeChar ',').length = 1 := by decide
  induction fields with
  | nil => exact Nat.le_refl 0
  | cons f fields ih =>
    obtain ⟨key,j⟩ := f
    rw [List.map_cons,List.sum_cons]
    show _ ≤ (utf8 (quote key)).length + (utf8 (stringify j)).length + 2 + _
    cases fields with
    | nil =>
      rw [stringifyFields,utf8_append,utf8_cons,List.length_append,List.length_append,hcolon]
      omega
    | cons g fields =>
      rw [stringifyFields,utf8_append,utf8_append,utf8_cons,utf8_cons,List.length_append,
        List.length_append,List.length_append,List.length_append,hcolon,hcomma]
      · omega
      · exact List.cons_ne_nil g fields

theorem object_length (fields : List (String × Json)) :
    (utf8 (stringify (.object fields))).length ≤
      (fields.map fun f => (utf8 (quote f.1)).length + (utf8 (stringify f.2)).length + 2).sum +
        2 := by
  have hfields := stringifyFields_length fields
  have hopen : (String.utf8EncodeChar '\x7b').length = 1 := by decide
  have hclose : (utf8 ['\x7d']).length = 1 := by decide
  rw [stringify,utf8_append,utf8_cons,List.length_append,List.length_append,hopen,hclose]
  omega

end Length

section Plain

/-- A character that is written as one byte, without an escape. -/
def isPlain (c : Char) : Bool :=
  decide (32 ≤ c.toNat) && decide (c.toNat < 128) && decide (c ≠ '"') && decide (c ≠ '\\')

theorem escapeChar_plain {c : Char} (h : isPlain c = true) :
    escapeChar c = [c] ∧ (String.utf8EncodeChar c).length = 1 := by
  simp only [isPlain,Bool.and_eq_true,decide_eq_true_eq] at h
  obtain ⟨⟨⟨hlow,hhigh⟩,hquote⟩,hslash⟩ := h
  constructor
  · unfold escapeChar
    rw [if_neg hquote,if_neg hslash,if_neg (by omega),if_neg (by omega),if_neg (by omega),
      if_neg (by omega),if_neg (by omega),if_neg (by omega)]
  · rw [String.length_utf8EncodeChar,Char.utf8Size]
    have hle : c.val ≤ 127 := by
      rw [UInt32.le_iff_toNat_le]
      show c.toNat ≤ 127
      omega
    exact if_pos hle

theorem quote_plain_length {s : String} (h : s.toList.all isPlain = true) :
    (utf8 (quote s)).length = s.toList.length + 2 := by
  have hchars : ∀ text : List Char, text.all isPlain = true →
      (utf8 (text.flatMap escapeChar)).length = text.length := by
    intro text htext
    induction text with
    | nil => rfl
    | cons c text ih =>
      rw [List.all_cons,Bool.and_eq_true] at htext
      obtain ⟨hescape,hbyte⟩ := escapeChar_plain htext.1
      rw [List.flatMap_cons,hescape,List.singleton_append,utf8_cons,List.length_append,hbyte,
        ih htext.2,List.length_cons,Nat.add_comm]
  have hquote : (utf8 ['"']).length = 1 := by decide
  unfold quote
  rw [← List.singleton_append,List.append_assoc,utf8_append,utf8_append,List.length_append,
    List.length_append,hquote,hchars _ h]
  omega

end Plain

section Stored

/-- What a field of an object takes, with the sign after it. -/
def fieldSize (f : String × Json) : ℕ :=
  (utf8 (quote f.1)).length + (utf8 (stringify f.2)).length + 2

theorem stringifyItems_size (items : List Json) : (utf8 (stringifyItems items)).length =
    (items.map fun j => (utf8 (stringify j)).length + 1).sum - 1 := by
  have hcomma : (String.utf8EncodeChar ',').length = 1 := by decide
  induction items with
  | nil => rfl
  | cons j items ih =>
    rw [List.map_cons,List.sum_cons]
    cases items with
    | nil => simp [stringifyItems]
    | cons j' items =>
      rw [stringifyItems,utf8_append,utf8_cons,List.length_append,List.length_append,hcomma,ih]
      · rw [List.map_cons,List.sum_cons]
        omega
      · exact List.cons_ne_nil _ _

theorem stringifyFields_size (fields : List (String × Json)) :
    (utf8 (stringifyFields fields)).length = (fields.map fieldSize).sum - 1 := by
  have hcolon : (String.utf8EncodeChar ':').length = 1 := by decide
  have hcomma : (String.utf8EncodeChar ',').length = 1 := by decide
  induction fields with
  | nil => rfl
  | cons f fields ih =>
    obtain ⟨key,j⟩ := f
    rw [List.map_cons,List.sum_cons]
    show _ = (utf8 (quote key)).length + (utf8 (stringify j)).length + 2 + _ - 1
    cases fields with
    | nil =>
      rw [stringifyFields,utf8_append,utf8_cons,List.length_append,List.length_append,hcolon]
      simp
      omega
    | cons g fields =>
      rw [stringifyFields,utf8_append,utf8_append,utf8_cons,utf8_cons,List.length_append,
        List.length_append,List.length_append,List.length_append,hcolon,hcomma,ih]
      · rw [List.map_cons,List.sum_cons,fieldSize]
        omega
      · exact List.cons_ne_nil g fields

mutual

/-- The order of the keys makes no difference to the size. -/
theorem Stored.size_eq {j j' : Json} (h : Stored j j') :
    (utf8 (stringify j')).length = (utf8 (stringify j)).length := by
  cases h with
  | array hitems =>
    simp only [stringify,utf8_append,utf8_cons,List.length_append,stringifyItems_size,hitems.sizes]
  | object hfields hperm =>
    simp only [stringify,utf8_append,utf8_cons,List.length_append,stringifyFields_size,
      ← hfields.sizes,(hperm.map fieldSize).sum_nat]
  | _ => rfl

theorem StoredItems.sizes {items items' : List Json} (h : StoredItems items items') :
    (items'.map fun j => (utf8 (stringify j)).length + 1) =
      items.map fun j => (utf8 (stringify j)).length + 1 := by
  cases h with
  | nil => rfl
  | cons hj hrest => rw [List.map_cons,List.map_cons,hj.size_eq,hrest.sizes]

theorem StoredFields.sizes {fields fields' : List (String × Json)}
    (h : StoredFields fields fields') : fields'.map fieldSize = fields.map fieldSize := by
  cases h with
  | nil => rfl
  | cons key hj hrest => rw [List.map_cons,List.map_cons,hrest.sizes,fieldSize,fieldSize,hj.size_eq]

end

end Stored

example : stringify (.object [("a",.number (-12)),("b",.text "x\"")]) =
    "\x7b\"a\":-12,\"b\":\"x\\\"\"\x7d".toList := by decide

end Json

end CluChess
