import Mathlib.Algebra.Group.Int.Defs
import Mathlib.Algebra.Group.Nat.Defs
import Mathlib.Data.List.Basic

/-!
# Byte strings

`std::string`, `std::string_view` and file contents are byte strings.  This
module has the conversions the rest of the model prints with: literals,
decimal numbers, hexadecimal digests, and the reading of a C literal through a
`std::string_view` parameter.
-/

namespace MiniTun

abbrev Bytes := List UInt8

instance Bytes.lawfulBEq : LawfulBEq Bytes :=
  inferInstanceAs (LawfulBEq (List UInt8))

/-- The bytes of a literal of the source. -/
def ascii (s : String) : Bytes :=
  s.toByteArray.data.toList

/-- What `std::string_view{const char*}` sees of an array of characters: the
length is found by searching for the first NUL. -/
def cString (literal : Bytes) : Bytes :=
  literal.takeWhile (· ≠ 0)

/-- `std::to_string` on a non-negative number. -/
def decimal (n : Nat) : Bytes :=
  (Nat.toDigits 10 n).map fun c => c.toNat.toUInt8

def isDigit (b : UInt8) : Bool :=
  48 ≤ b ∧ b ≤ 57

/-- The number a string of decimal digits denotes. -/
def decimalValue (bs : Bytes) : Nat :=
  bs.foldl (fun n b => n * 10 + (b.toNat - 48)) 0

def isLowerHex (b : UInt8) : Bool :=
  (48 ≤ b ∧ b ≤ 57) ∨ (97 ≤ b ∧ b ≤ 102)

def hexDigit (n : Nat) : UInt8 :=
  (ascii "0123456789abcdef").getD n 0

/-- Two lowercase digits for each byte, the high half first. -/
def hexEncode : Bytes → Bytes
  | [] => []
  | b :: bs => hexDigit (b.toNat >>> 4) :: hexDigit (b.toNat &&& 0x0f) :: hexEncode bs

/-! ## Decimal numbers -/

theorem isDigit_toUInt8 {c : Char} (h : c.isDigit = true) :
    c.toNat < 128 ∧ isDigit c.toNat.toUInt8 = true := by
  simp only [Char.isDigit, Bool.and_eq_true, decide_eq_true_eq] at h
  have hl : 48 ≤ c.toNat := h.1
  have hh : c.toNat ≤ 57 := h.2
  refine ⟨by omega, ?_⟩
  have hmod : c.toNat % 256 = c.toNat := Nat.mod_eq_of_lt (by omega)
  simp [isDigit, UInt8.le_iff_toNat_le, hmod, hl, hh]

theorem decimal_isDigit (n : Nat) : ∀ b ∈ decimal n, isDigit b = true := by
  intro b hb
  obtain ⟨c, hc, rfl⟩ := List.mem_map.1 hb
  exact (isDigit_toUInt8 (Nat.isDigit_of_mem_toDigits (by decide) (by decide) hc)).2

theorem decimal_ne_nil (n : Nat) : decimal n ≠ [] := by
  simp [decimal]

theorem decimal_map_ofNat (n : Nat) :
    (decimal n).map (fun b => Char.ofNat b.toNat) = Nat.toDigits 10 n := by
  rw [decimal, List.map_map]
  conv_rhs => rw [← List.map_id (Nat.toDigits 10 n)]
  refine List.map_congr_left fun c hc => ?_
  have hlt := (isDigit_toUInt8 (Nat.isDigit_of_mem_toDigits (by decide) (by decide) hc)).1
  have hmod : c.toNat % 256 = c.toNat := Nat.mod_eq_of_lt (by omega)
  simp [hmod]

theorem decimal_injective {m n : Nat} (h : decimal m = decimal n) : m = n := by
  have hd : Nat.toDigits 10 m = Nat.toDigits 10 n := by
    rw [← decimal_map_ofNat, ← decimal_map_ofNat, h]
  have hm : Nat.ofDigitChars 10 (Nat.toDigits 10 m) 0 = m :=
    Nat.ofDigitChars_toDigits (by decide) (by decide)
  have hn : Nat.ofDigitChars 10 (Nat.toDigits 10 n) 0 = n :=
    Nat.ofDigitChars_toDigits (by decide) (by decide)
  rw [← hm, hd, hn]

/-- A number behind a byte that is no digit can be split off again, whatever stands before
it. -/
theorem append_cons_decimal_inj {sep : UInt8} (hsep : isDigit sep = false)
    {xs ys : Bytes} {m n : Nat}
    (h : xs ++ sep :: decimal m = ys ++ sep :: decimal n) : xs = ys ∧ m = n := by
  have hnot : ∀ k, sep ∉ decimal k := by
    intro k hmem
    rw [decimal_isDigit k sep hmem] at hsep
    cases hsep
  rcases List.append_eq_append_iff.1 h with ⟨between, hys, hm⟩ | ⟨between, hxs, hn⟩
  · cases between with
    | nil => exact ⟨by simpa using hys.symm, decimal_injective (by simpa using hm)⟩
    | cons b between => exact absurd (by simp [(List.cons.inj hm).2]) (hnot m)
  · cases between with
    | nil => exact ⟨by simpa using hxs, decimal_injective (by simpa using hn.symm)⟩
    | cons b between => exact absurd (by simp [(List.cons.inj hn).2]) (hnot n)

/-! ## Separators -/

theorem takeWhile_append_separator {sep : UInt8} {host : Bytes} (rest : Bytes) (h : sep ∉ host) :
    (host ++ sep :: rest).takeWhile (· ≠ sep) = host ∧
      (host ++ sep :: rest).dropWhile (· ≠ sep) = sep :: rest := by
  have hh : ∀ b ∈ host, decide (b ≠ sep) = true := by
    intro b hb
    exact decide_eq_true fun heq => h (heq ▸ hb)
  rw [List.takeWhile_append_of_pos hh, List.dropWhile_append_of_pos hh]
  simp

/-! ## Hexadecimal digests -/

theorem hexDigit_injective : ∀ m n : Fin 16, hexDigit m = hexDigit n → m = n := by
  decide

theorem hexDigit_isLowerHex : ∀ n : Fin 16, isLowerHex (hexDigit n) = true := by
  decide

@[simp] theorem hexEncode_length (bs : Bytes) : (hexEncode bs).length = 2 * bs.length := by
  induction bs with
  | nil => rfl
  | cons b bs ih => simp [hexEncode]; omega

theorem hexEncode_isLowerHex (bs : Bytes) : ∀ b ∈ hexEncode bs, isLowerHex b = true := by
  induction bs with
  | nil => simp [hexEncode]
  | cons c bs ih =>
    have hc := c.toNat_lt
    have hhigh : c.toNat >>> 4 < 16 := by
      omega
    have hlow : c.toNat &&& 0x0f < 16 := Nat.lt_of_le_of_lt Nat.and_le_right (by decide)
    intro b hb
    rcases List.mem_cons.1 hb with rfl | hb
    · exact hexDigit_isLowerHex ⟨_, hhigh⟩
    · rcases List.mem_cons.1 hb with rfl | hb
      · exact hexDigit_isLowerHex ⟨_, hlow⟩
      · exact ih b hb

theorem hexEncode_injective {bs cs : Bytes} (h : hexEncode bs = hexEncode cs) : bs = cs := by
  induction bs generalizing cs with
  | nil => cases cs with
    | nil => rfl
    | cons c cs => simp [hexEncode] at h
  | cons b bs ih => cases cs with
    | nil => simp [hexEncode] at h
    | cons c cs =>
      simp only [hexEncode, List.cons.injEq, Nat.shiftRight_eq_div_pow] at h
      obtain ⟨hhigh, hlow, ht⟩ := h
      have hb := b.toNat_lt
      have hc := c.toNat_lt
      have hand : ∀ n : Nat, n &&& 0x0f = n % 16 := fun n => Nat.and_two_pow_sub_one_eq_mod n 4
      rw [hand, hand] at hlow
      have h1 := hexDigit_injective ⟨b.toNat / 2 ^ 4, by omega⟩ ⟨c.toNat / 2 ^ 4, by omega⟩ hhigh
      have h2 := hexDigit_injective ⟨b.toNat % 16, by omega⟩ ⟨c.toNat % 16, by omega⟩ hlow
      simp only [Fin.mk.injEq] at h1 h2
      have hbc : b = c := UInt8.toNat_inj.1 (by omega)
      rw [hbc, ih ht]

end MiniTun
