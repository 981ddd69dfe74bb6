import CluChess.SnapshotRecovery
import CluChess.UuidText
import Mathlib.Data.List.Infix

/-! `identity.catalogs.ts`, `profanity.ts` and the names that `identity.service.ts` puts together:
an adjective, a noun and a suffix of random digits. The words and the suffixes are such that no
name can contain a word of the denylist, whatever is drawn. -/
namespace CluChess

def adjectives : List String :=
  ["Agile","Amber","Bold","Brave","Bright","Calm","Clever","Crimson","Daring","Emerald","Gentle",
    "Golden","Grand","Hidden","Honest","Jolly","Kind","Lively","Lucky","Merry","Mighty","Nimble",
    "Noble","Quiet","Rapid","Royal","Silent","Silver","Steady","Swift","Valiant","Wise"]

def nouns : List String :=
  ["Beacon","Bear","Bishop","Castle","Charger","Cipher","Comet","Crown","Dragon","Falcon","File",
    "Fork","Fox","Gambit","Harbor","Knight","Lion","Meadow","Monarch","Nova","Orbit","Pawn","Pin",
    "Rank","Raven","Rider","Rook","Stallion","Summit","Tempo","Tiger","Wolf"]

/-- The keys of `AVATARS`. -/
def avatars : List String :=
  ["knight_amber_01","knight_bay_02","knight_bay_03","knight_black_01","knight_chestnut_01",
    "knight_gray_02","knight_palomino_01","knight_white_02"]

def denylist : List String :=
  ["bitch","cunt","dick","faggot","fuck","hitler","nazi","nigga","nigger","penis","shit","slut",
    "whore"]

/-- `LEET_CHARACTERS`; every other character stands for itself. -/
def leetCharacter : Char → Char
  | '!' => 'i'
  | '$' => 's'
  | '0' => 'o'
  | '1' => 'i'
  | '3' => 'e'
  | '4' => 'a'
  | '5' => 's'
  | '7' => 't'
  | '8' => 'b'
  | '@' => 'a'
  | c => c

def isDiacritic (c : Char) : Bool := decide (0x300 ≤ c.toNat) && decide (c.toNat ≤ 0x36f)

def isLowerLetter (c : Char) : Bool := decide ('a'.toNat ≤ c.toNat) && decide (c.toNat ≤ 'z'.toNat)

/-- `normalize('NFKD')` and `toLowerCase` of the language: of a text in ASCII they change nothing
but the case of its letters. -/
structure UnicodeFold where
  fold : String → String
  ascii : ∀ s, (∀ c ∈ s.toList, c.toNat < 128) → fold s = s.toLower

def asciiFold : UnicodeFold := ⟨String.toLower,fun _ _ => rfl⟩

/-- The letters that a character is read as. -/
def readLetters (characters : List Char) : List Char :=
  ((characters.map leetCharacter).filter fun c => !isDiacritic c).filter isLowerLetter

def normalizeForProfanity (unicode : UnicodeFold) (value : String) : String :=
  String.ofList (readLetters (unicode.fold value).toList)

def containsProfanity (unicode : UnicodeFold) (value : String) : Bool :=
  denylist.any fun blocked =>
    decide (blocked.toList <:+: (normalizeForProfanity unicode value).toList)

def candidateAttempts : ℕ := 12

def fallbackAttempts : ℕ := 4

/-- What the random source gives to one attempt. -/
structure IdentityDraw where
  adjective : Fin adjectives.length
  noun : Fin nouns.length
  digits : ℕ → Fin 10
  bytes : Fin 6 → Fin 256
  avatar : Fin avatars.length

def suffixLength (attempt : ℕ) : ℕ := min 4 (2 + attempt/4)

namespace IdentityDraw

def numericSuffix (draw : IdentityDraw) (length : ℕ) : List Char :=
  (List.range length).map fun position => hexDigit (draw.digits position)

def fallbackSuffix (draw : IdentityDraw) : List Char :=
  (List.finRange 6).flatMap fun position =>
    [hexDigit (draw.bytes position/16),hexDigit (draw.bytes position % 16)]

/-- The suffix of an attempt; the attempts of the second loop come after those of the first. -/
def suffix (draw : IdentityDraw) (attempt : ℕ) : List Char :=
  if attempt < candidateAttempts then draw.numericSuffix (suffixLength attempt)
  else draw.fallbackSuffix

def displayName (draw : IdentityDraw) (attempt : ℕ) : String :=
  adjectives[draw.adjective] ++ nouns[draw.noun] ++ String.ofList (draw.suffix attempt)

/-- What an attempt returns when its name is reserved. -/
def identity (draw : IdentityDraw) (attempt : ℕ) : Identity :=
  ⟨avatars[draw.avatar],draw.displayName attempt⟩

end IdentityDraw

section Letters

@[simp] theorem readLetters_append (a b : List Char) :
    readLetters (a ++ b) = readLetters a ++ readLetters b := by
  simp [readLetters]

/-- The hexadecimal digits are in ASCII, and are read as ten letters at most. -/
theorem hexDigit_ascii {n : ℕ} (h : n < 16) : (hexDigit n).toNat < 128 ∧
    ∀ c ∈ readLetters [(hexDigit n).toLower], c ∈ "abcdefiost".toList := by
  have hall : ((List.range 16).all fun n => decide ((hexDigit n).toNat < 128) &&
      (readLetters [(hexDigit n).toLower]).all fun c => decide (c ∈ "abcdefiost".toList)) =
        true := by decide
  obtain ⟨hlt,hletters⟩ :=
    Bool.and_eq_true_iff.mp (List.all_eq_true.mp hall n (List.mem_range.mpr h))
  exact ⟨of_decide_eq_true hlt,fun c hc => of_decide_eq_true (List.all_eq_true.mp hletters c hc)⟩

theorem suffix_ascii (draw : IdentityDraw) (attempt : ℕ) :
    ∀ c ∈ draw.suffix attempt, ∃ n < 16, c = hexDigit n := by
  intro c hc
  unfold IdentityDraw.suffix at hc
  split_ifs at hc
  · obtain ⟨position,_,rfl⟩ := List.mem_map.mp hc
    have hlt := (draw.digits position).isLt
    exact ⟨_,by omega,rfl⟩
  · obtain ⟨position,_,hc⟩ := List.mem_flatMap.mp hc
    have hlt := (draw.bytes position).isLt
    simp only [List.mem_cons,List.not_mem_nil,or_false] at hc
    rcases hc with rfl | rfl
    · exact ⟨_,by omega,rfl⟩
    · exact ⟨_,by omega,rfl⟩

theorem readLetters_suffix (draw : IdentityDraw) (attempt : ℕ) :
    ∀ c ∈ readLetters ((draw.suffix attempt).map Char.toLower), c ∈ "abcdefiost".toList := by
  have hall : ∀ characters : List Char, (∀ c ∈ characters, ∃ n < 16, c = hexDigit n) →
      ∀ c ∈ readLetters (characters.map Char.toLower), c ∈ "abcdefiost".toList := by
    intro characters
    induction characters with
    | nil => exact fun _ c hc => absurd hc List.not_mem_nil
    | cons x xs ih =>
      intro hx c hc
      rw [List.map_cons,← List.singleton_append,readLetters_append] at hc
      rcases List.mem_append.mp hc with hc | hc
      · obtain ⟨n,hn,rfl⟩ := hx x List.mem_cons_self
        exact (hexDigit_ascii hn).2 c hc
      · exact ih (fun y hy => hx y (List.mem_cons_of_mem x hy)) c hc
  exact hall _ (suffix_ascii draw attempt)

end Letters

section Words

theorem catalog_words : ∀ word ∈ adjectives ++ nouns,
    (∀ c ∈ word.toList, c.toNat < 128) ∧ word.toList.length ≤ 9 := by
  have hall : ((adjectives ++ nouns).all fun word =>
      (word.toList.all fun c => decide (c.toNat < 128)) && decide (word.toList.length ≤ 9)) =
        true := by decide
  intro word hword
  obtain ⟨hascii,hlength⟩ := Bool.and_eq_true_iff.mp (List.all_eq_true.mp hall word hword)
  exact ⟨fun c hc => of_decide_eq_true (List.all_eq_true.mp hascii c hc),
    of_decide_eq_true hlength⟩

def wordLetters (word : String) : List Char := readLetters (word.toList.map Char.toLower)

theorem catalog_clean : ((adjectives ++ nouns).all fun word => denylist.all fun blocked =>
    !decide (blocked.toList <:+: wordLetters word)) = true := by decide +kernel

theorem boundary_clean : (denylist.all fun blocked => (List.range 8).all fun k =>
    decide (k = 0) || decide (blocked.toList.length ≤ k) ||
      (adjectives.all fun word => !decide (blocked.toList.take k <:+ wordLetters word)) ||
      nouns.all fun word => !decide (blocked.toList.drop k <+: wordLetters word)) = true := by
  decide +kernel

/-- No word of the denylist is read across a noun and a suffix, nor in a suffix. -/
theorem suffix_clean : (denylist.all fun blocked => (List.range 8).all fun k =>
    decide (blocked.toList.length ≤ k) ||
      (!(blocked.toList.drop k).all fun c => decide (c ∈ "abcdefiost".toList)) ||
      nouns.all fun word => !decide (blocked.toList.take k <:+ wordLetters word) &&
        !decide (wordLetters word <:+ blocked.toList.take k)) = true := by decide +kernel

theorem denylist_short : ∀ blocked ∈ denylist, blocked.toList.length < 8 := by decide

variable {blocked word word' : String} {suffix : List Char}

theorem not_infix_word (hb : blocked ∈ denylist) (hw : word ∈ adjectives ++ nouns) :
    ¬ blocked.toList <:+: wordLetters word := by
  have h := List.all_eq_true.mp (List.all_eq_true.mp catalog_clean word hw) blocked hb
  simpa using h

theorem not_infix_words (hb : blocked ∈ denylist) (hw : word ∈ adjectives) (hw' : word' ∈ nouns) :
    ¬ blocked.toList <:+: wordLetters word ++ wordLetters word' := by
  rw [List.infix_append_iff_ne_nil]
  rintro (h | h | ⟨first,second,hfirst,hsecond,he,hs,hp⟩)
  · exact not_infix_word hb (List.mem_append_left _ hw) h
  · exact not_infix_word hb (List.mem_append_right _ hw') h
  · have hlength := congrArg List.length he
    rw [List.length_append] at hlength
    have hpos := List.length_pos_iff.mpr hfirst
    have hpos' := List.length_pos_iff.mpr hsecond
    have hshort := denylist_short blocked hb
    have h := List.all_eq_true.mp (List.all_eq_true.mp boundary_clean blocked hb) first.length
      (List.mem_range.mpr (by omega))
    rw [he,List.take_left,List.drop_left] at h
    simp only [Bool.or_eq_true,decide_eq_true_eq,List.all_eq_true,Bool.not_eq_true',
      decide_eq_false_iff_not,List.length_append] at h
    rcases h with ((h | h) | h) | h
    · omega
    · omega
    · exact h word hw hs
    · exact h word' hw' hp

theorem not_infix_name (hb : blocked ∈ denylist) (hw : word ∈ adjectives) (hw' : word' ∈ nouns)
    (hsuffix : ∀ c ∈ suffix, c ∈ "abcdefiost".toList) :
    ¬ blocked.toList <:+: wordLetters word ++ wordLetters word' ++ suffix := by
  have hclean : ∀ first second, blocked.toList = first ++ second → second ≠ [] →
      (∀ c ∈ second, c ∈ "abcdefiost".toList) →
        ¬ first <:+ wordLetters word' ∧ ¬ wordLetters word' <:+ first := by
    intro first second he hne hsecond
    have hlength := congrArg List.length he
    rw [List.length_append] at hlength
    have hpos := List.length_pos_iff.mpr hne
    have hshort := denylist_short blocked hb
    have h := List.all_eq_true.mp (List.all_eq_true.mp suffix_clean blocked hb) first.length
      (List.mem_range.mpr (by omega))
    rw [he,List.take_left,List.drop_left] at h
    simp only [Bool.or_eq_true,decide_eq_true_eq,List.all_eq_true,Bool.not_eq_true',
      List.all_eq_false,Bool.and_eq_true,decide_eq_false_iff_not,List.length_append] at h
    rcases h with (h | ⟨c,hc,h⟩) | h
    · omega
    · exact absurd (hsecond c hc) h
    · exact h word' hw'
  rw [List.infix_append_iff_ne_nil]
  rintro (h | h | ⟨first,second,_,hsecond,he,hs,hp⟩)
  · exact not_infix_words hb hw hw' h
  · have hne : blocked.toList ≠ [] := by
      rintro hnil
      exact not_infix_words hb hw hw' (hnil ▸ List.nil_infix)
    refine (hclean [] blocked.toList rfl hne ?_).1 List.nil_suffix
    exact fun c hc => hsuffix c (h.subset hc)
  · obtain ⟨hnot,hnot'⟩ := hclean first second he hsecond fun c hc => hsuffix c (hp.subset hc)
    rcases List.suffix_or_suffix_of_suffix hs (List.suffix_append _ _) with h | h
    · exact hnot h
    · exact hnot' h

end Words

section Names

variable (unicode : UnicodeFold) (draw : IdentityDraw) (attempt : ℕ)

theorem adjective_mem : adjectives[draw.adjective] ∈ adjectives := List.getElem_mem _

theorem noun_mem : nouns[draw.noun] ∈ nouns := List.getElem_mem _

theorem toList_displayName : (draw.displayName attempt).toList =
    adjectives[draw.adjective].toList ++ nouns[draw.noun].toList ++ draw.suffix attempt := by
  simp [IdentityDraw.displayName]

/-- The profanity filter passes every name that can be drawn. -/
theorem displayName_clean : containsProfanity unicode (draw.displayName attempt) = false := by
  have hascii : ∀ c ∈ (draw.displayName attempt).toList, c.toNat < 128 := by
    intro c hc
    rw [toList_displayName] at hc
    rcases List.mem_append.mp hc with hc | hc
    · rcases List.mem_append.mp hc with hc | hc
      · exact (catalog_words _ (List.mem_append_left _ (adjective_mem draw))).1 c hc
      · exact (catalog_words _ (List.mem_append_right _ (noun_mem draw))).1 c hc
    · obtain ⟨n,hn,rfl⟩ := suffix_ascii draw attempt c hc
      exact (hexDigit_ascii hn).1
  have hread : (normalizeForProfanity unicode (draw.displayName attempt)).toList =
      wordLetters adjectives[draw.adjective] ++ wordLetters nouns[draw.noun] ++
        readLetters ((draw.suffix attempt).map Char.toLower) := by
    unfold normalizeForProfanity wordLetters
    have hlower : (draw.displayName attempt).toLower.toList =
        (draw.displayName attempt).toList.map Char.toLower := String.toList_map
    rw [unicode.ascii _ hascii,String.toList_ofList,hlower,toList_displayName]
    simp only [List.map_append,readLetters_append]
  unfold containsProfanity
  rw [hread,List.any_eq_false]
  intro blocked hb h
  exact not_infix_name hb (adjective_mem draw) (noun_mem draw) (readLetters_suffix draw attempt)
    (of_decide_eq_true h)

theorem length_suffix : (draw.suffix attempt).length ≤ 12 := by
  unfold IdentityDraw.suffix
  split_ifs
  · have hlength : suffixLength attempt ≤ 4 := Nat.min_le_left _ _
    unfold IdentityDraw.numericSuffix
    rw [List.length_map,List.length_range]
    omega
  · exact le_refl 12

theorem identity_valid : identitySchema (draw.identity attempt) = true := by
  have havatar : ∀ key ∈ avatars, isText 1 128 key = true := by decide
  have hadjective := (catalog_words _ (List.mem_append_left _ (adjective_mem draw))).2
  have hnoun := (catalog_words _ (List.mem_append_right _ (noun_mem draw))).2
  have hsuffix := length_suffix draw attempt
  have hlength := congrArg List.length (toList_displayName draw attempt)
  rw [List.length_append,List.length_append] at hlength
  have hne : draw.displayName attempt ≠ "" := by
    have hword : ∀ word ∈ adjectives, word.toList ≠ [] := by decide
    intro hempty
    have htext := toList_displayName draw attempt
    rw [hempty] at htext
    obtain ⟨hwords,_⟩ := List.append_eq_nil_iff.mp htext.symm
    exact hword _ (adjective_mem draw) (List.append_eq_nil_iff.mp hwords).1
  have hname : isText 1 128 (draw.displayName attempt) = true := by
    refine isText_one (decide_eq_true hne) ?_
    have hle := jsLength_le (draw.displayName attempt)
    rw [← String.length_toList] at hle
    omega
  simp [identitySchema,IdentityDraw.identity,hname,havatar _ (List.getElem_mem _)]

end Names
end CluChess
