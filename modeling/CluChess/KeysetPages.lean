import Mathlib.Data.List.Sort
import Mathlib.Data.Prod.Lex

/-! Keyset pagination: pages of rows in the order of a key, each after the last row of the one
before it. Nothing here depends on what the rows are, or on why a row leaves the listing while it
is traversed. -/
namespace CluChess

section Pages

variable {α κ : Type*}

/-- The cursor after a page: its last row when the page is full, and none otherwise. -/
def cursorAfter (key : α → κ) (limit : ℕ) (page : List α) : Option κ :=
  if page.length = limit then page.getLast?.map key else none

theorem cursorAfter_map {β : Type*} (key : β → κ) (f : α → β) (limit : ℕ) (page : List α) :
    cursorAfter key limit (page.map f) = cursorAfter (fun a => key (f a)) limit page := by
  unfold cursorAfter
  rw [List.length_map,List.getLast?_map,Option.map_map]
  rfl

variable [LinearOrder κ]

def keysetPage (key : α → κ) (rows : List α) (listed : α → Bool) (cursor : Option κ)
    (limit : ℕ) : List α :=
  ((rows.filter fun a => listed a && cursor.all fun c => decide (c < key a)).insertionSort
    fun a b => key a ≤ key b).take limit

variable {key : α → κ} {rows : List α} {listed : α → Bool} {cursor : Option κ} {limit : ℕ} {a : α}

theorem mem_keysetPage (h : a ∈ keysetPage key rows listed cursor limit) :
    a ∈ rows ∧ listed a = true ∧ ∀ c ∈ cursor, c < key a := by
  have hfilter := (List.mem_insertionSort _).mp (List.mem_of_mem_take h)
  rw [List.mem_filter,Bool.and_eq_true,Option.all_eq_true] at hfilter
  obtain ⟨hrows,hlisted,hafter⟩ := hfilter
  exact ⟨hrows,hlisted,fun c hc => of_decide_eq_true (hafter c hc)⟩

theorem mem_keysetPage_or_full (ha : a ∈ rows) (hl : listed a = true)
    (hc : ∀ c ∈ cursor, c < key a) :
    a ∈ keysetPage key rows listed cursor limit ∨
      (keysetPage key rows listed cursor limit).length = limit ∧
        ∀ b ∈ keysetPage key rows listed cursor limit, key b ≤ key a := by
  unfold keysetPage
  set sorted := (rows.filter fun a =>
    listed a && cursor.all fun c => decide (c < key a)).insertionSort fun a b => key a ≤ key b
    with hsorted
  have hmem : a ∈ sorted := by
    rw [hsorted,List.mem_insertionSort,List.mem_filter,Bool.and_eq_true,Option.all_eq_true]
    exact ⟨ha,hl,fun c hcursor => decide_eq_true (hc c hcursor)⟩
  have hpairwise : (sorted.take limit ++ sorted.drop limit).Pairwise fun a b => key a ≤ key b := by
    rw [List.take_append_drop]
    exact List.pairwise_insertionSort _ _
  rw [← List.take_append_drop limit sorted] at hmem
  rcases List.mem_append.mp hmem with htake | hdrop
  · exact Or.inl htake
  · refine Or.inr ⟨?_,fun b hb => (List.pairwise_append.mp hpairwise).2.2 b hb a hdrop⟩
    have hlong : limit < sorted.length := by
      by_contra hle
      rw [List.drop_eq_nil_of_le (not_lt.mp hle)] at hdrop
      cases hdrop
    rw [List.length_take]
    omega

/-- Every listed row up to the cursor has been visited. -/
def VisitedUpTo (key : α → κ) (rows : List α) (listed : α → Bool) (cursor : Option κ)
    (visited : α → Prop) : Prop :=
  ∀ a ∈ rows, listed a = true → ∀ c ∈ cursor, key a ≤ c → visited a

theorem VisitedUpTo.mono {listed' : α → Bool} {visited visited' : α → Prop}
    (h : VisitedUpTo key rows listed cursor visited) (hl : ∀ a, listed' a = true → listed a = true)
    (hv : ∀ a, visited a → visited' a) : VisitedUpTo key rows listed' cursor visited' :=
  fun a ha hlisted c hc hle => hv a (h a ha (hl a hlisted) c hc hle)

section Traversal

variable {visited : α → Prop}

theorem VisitedUpTo.advance (h : VisitedUpTo key rows listed cursor visited)
    (hinj : ∀ a ∈ rows, ∀ b ∈ rows, key a = key b → a = b)
    (hpage : ∀ a ∈ keysetPage key rows listed cursor limit, visited a) :
    VisitedUpTo key rows listed
      (cursorAfter key limit (keysetPage key rows listed cursor limit)) visited := by
  intro a ha hlisted c hc hle
  unfold cursorAfter at hc
  split_ifs at hc with hfull
  · obtain ⟨last,hlast,rfl⟩ := Option.map_eq_some_iff.mp hc
    have hlastmem := List.mem_of_getLast? hlast
    by_cases hpast : ∃ c ∈ cursor, key a ≤ c
    · obtain ⟨c,hcursor,hkey⟩ := hpast
      exact h a ha hlisted c hcursor hkey
    have hafter : ∀ c ∈ cursor, c < key a := by
      intro c hcursor
      exact lt_of_not_ge fun hkey => hpast ⟨c,hcursor,hkey⟩
    rcases mem_keysetPage_or_full ha hlisted hafter with hmem | ⟨_,hbelow⟩
    · exact hpage a hmem
    · have hkey : key a = key last := le_antisymm hle (hbelow last hlastmem)
      have heq : a = last := hinj a ha last (mem_keysetPage hlastmem).1 hkey
      exact hpage a (heq ▸ hlastmem)
  · cases hc

theorem VisitedUpTo.complete (h : VisitedUpTo key rows listed cursor visited) (hlimit : 0 < limit)
    (hpage : ∀ a ∈ keysetPage key rows listed cursor limit, visited a)
    (hlast : cursorAfter key limit (keysetPage key rows listed cursor limit) = none) :
    ∀ a ∈ rows, listed a = true → visited a := by
  intro a ha hlisted
  by_cases hpast : ∃ c ∈ cursor, key a ≤ c
  · obtain ⟨c,hcursor,hkey⟩ := hpast
    exact h a ha hlisted c hcursor hkey
  have hafter : ∀ c ∈ cursor, c < key a := by
    intro c hcursor
    exact lt_of_not_ge fun hkey => hpast ⟨c,hcursor,hkey⟩
  rcases mem_keysetPage_or_full ha hlisted hafter with hmem | ⟨hfull,_⟩
  · exact hpage a hmem
  · unfold cursorAfter at hlast
    rw [if_pos hfull,Option.map_eq_none_iff,List.getLast?_eq_none_iff] at hlast
    rw [hlast,List.length_nil] at hfull
    omega

end Traversal

end Pages

end CluChess
