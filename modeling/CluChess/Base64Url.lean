import Mathlib.Data.List.Basic
import Mathlib.Data.Nat.Notation

/-! The `base64url` encoding of bytes, without padding. A decoder drops the bits that fill no
byte. -/
namespace CluChess

namespace Base64Url

def alphabet : List Char :=
  "ABCDEFGHIJKLMNOPQRSTUVWXYZabcdefghijklmnopqrstuvwxyz0123456789-_".toList

def charOf (sextet : ℕ) : Char := alphabet.getD sextet 'A'

def valueOf (c : Char) : ℕ := alphabet.idxOf c

def encode : List UInt8 → List Char
  | a :: b :: c :: bytes =>
    charOf (a.toNat/4) :: charOf (a.toNat % 4*16 + b.toNat/16) ::
      charOf (b.toNat % 16*4 + c.toNat/64) :: charOf (c.toNat % 64) :: encode bytes
  | [a,b] => [charOf (a.toNat/4),charOf (a.toNat % 4*16 + b.toNat/16),charOf (b.toNat % 16*4)]
  | [a] => [charOf (a.toNat/4),charOf (a.toNat % 4*16)]
  | [] => []

def decode : List Char → List UInt8
  | p :: q :: r :: s :: chars =>
    .ofNat (valueOf p*4 + valueOf q/16) :: .ofNat (valueOf q % 16*16 + valueOf r/4) ::
      .ofNat (valueOf r % 4*64 + valueOf s) :: decode chars
  | [p,q,r] => [.ofNat (valueOf p*4 + valueOf q/16),.ofNat (valueOf q % 16*16 + valueOf r/4)]
  | [p,q] => [.ofNat (valueOf p*4 + valueOf q/16)]
  | _ => []

/-- `/^[A-Za-z0-9_-]+$/`. -/
def isEncoded (chars : List Char) : Bool :=
  decide (chars ≠ []) && chars.all fun c => decide (c ∈ alphabet)

theorem valueOf_charOf {sextet : ℕ} (h : sextet < 64) : valueOf (charOf sextet) = sextet := by
  revert sextet
  decide +kernel

theorem charOf_mem (sextet : ℕ) : charOf sextet ∈ alphabet := by
  unfold charOf
  rw [List.getD_eq_getElem?_getD]
  cases hget : alphabet[sextet]? with
  | none => decide
  | some c => exact List.mem_of_getElem? hget

theorem ofNat_eq {a : UInt8} {n : ℕ} (h : n = a.toNat) : UInt8.ofNat n = a := by
  rw [h,UInt8.ofNat_toNat]

/-- Decoding gives the bytes back. -/
theorem decode_encode : ∀ bytes, decode (encode bytes) = bytes
  | a :: b :: c :: bytes => by
    have ha := a.toNat_lt
    have hb := b.toNat_lt
    have hc := c.toNat_lt
    rw [encode,decode,valueOf_charOf (by omega),valueOf_charOf (by omega),
      valueOf_charOf (by omega),valueOf_charOf (by omega),decode_encode bytes]
    rw [ofNat_eq (a := a) (by omega),ofNat_eq (a := b) (by omega),ofNat_eq (a := c) (by omega)]
  | [a,b] => by
    have ha := a.toNat_lt
    have hb := b.toNat_lt
    rw [encode,decode,valueOf_charOf (by omega),valueOf_charOf (by omega),
      valueOf_charOf (by omega)]
    rw [ofNat_eq (a := a) (by omega),ofNat_eq (a := b) (by omega)]
  | [a] => by
    have ha := a.toNat_lt
    rw [encode,decode,valueOf_charOf (by omega),valueOf_charOf (by omega)]
    rw [ofNat_eq (a := a) (by omega)]
  | [] => rfl

theorem mem_encode : ∀ {bytes : List UInt8}, ∀ x ∈ encode bytes, x ∈ alphabet
  | a :: b :: c :: bytes,x,h => by
    rw [encode] at h
    simp only [List.mem_cons] at h
    rcases h with rfl | rfl | rfl | rfl | h
    · exact charOf_mem _
    · exact charOf_mem _
    · exact charOf_mem _
    · exact charOf_mem _
    · exact mem_encode x h
  | [a,b],x,h => by
    simp only [encode,List.mem_cons,List.not_mem_nil,or_false] at h
    rcases h with rfl | rfl | rfl <;> exact charOf_mem _
  | [a],x,h => by
    simp only [encode,List.mem_cons,List.not_mem_nil,or_false] at h
    rcases h with rfl | rfl <;> exact charOf_mem _
  | [],x,h => by cases h

theorem length_encode : ∀ bytes, (encode bytes).length = (4*bytes.length + 2)/3
  | a :: b :: c :: bytes => by
    rw [encode]
    simp only [List.length_cons,length_encode bytes]
    omega
  | [a,b] => by simp [encode]
  | [a] => by simp [encode]
  | [] => rfl

/-- What is encoded passes the test of its characters. -/
theorem isEncoded_encode {bytes : List UInt8} (h : bytes ≠ []) :
    isEncoded (encode bytes) = true := by
  have hlength := length_encode bytes
  have hpositive := List.length_pos_of_ne_nil h
  have hne : encode bytes ≠ [] := by
    intro hnil
    rw [hnil,List.length_nil] at hlength
    omega
  unfold isEncoded
  rw [Bool.and_eq_true,List.all_eq_true]
  exact ⟨decide_eq_true hne,fun c hc => decide_eq_true (mem_encode c hc)⟩

end Base64Url

end CluChess
