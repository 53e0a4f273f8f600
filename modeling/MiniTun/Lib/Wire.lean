import Mathlib.Data.List.Basic
import Mathlib.Tactic.Ring

/-!
# Byte layouts

Unsigned integers as big-endian bytes, and what it means that a reader and a
writer agree on a layout.  A layout is a function from values to bytes together
with the values it is meant for; a reader that accepts exactly those values, in
exactly that layout, and a writer that produces it are inverse to each other.
-/

namespace Wire

/-! ## Big-endian integers -/

/-- The low `width` bytes of a number, the most significant first. -/
def bigEndian : Nat → Nat → List UInt8
  | 0, _ => []
  | width + 1, n => (n >>> (8 * width)).toUInt8 :: bigEndian width n

variable (bytes : List UInt8)

/-- The number a string of bytes spells. -/
def value : Nat :=
  bytes.foldl (fun n b => n <<< 8 ||| b.toNat) 0

@[simp] theorem length_bigEndian (width n : Nat) : (bigEndian width n).length = width := by
  induction width with
  | zero => rfl
  | succ width ih => simp [bigEndian, ih]

theorem shiftLeft_or_toNat (n : Nat) (b : UInt8) : n <<< 8 ||| b.toNat = n * 256 + b.toNat := by
  have hb : b.toNat < 2 ^ 8 := b.toNat_lt
  rw [← Nat.shiftLeft_add_eq_or_of_lt hb, Nat.shiftLeft_eq]

theorem foldl_eq_value (n : Nat) :
    bytes.foldl (fun n b => n <<< 8 ||| b.toNat) n = n * 256 ^ bytes.length + value bytes := by
  unfold value
  induction bytes generalizing n with
  | nil => simp
  | cons b bytes ih =>
    rw [List.foldl_cons, List.foldl_cons, ih, ih (0 <<< 8 ||| b.toNat), shiftLeft_or_toNat,
      shiftLeft_or_toNat, List.length_cons]
    ring

theorem value_cons (b : UInt8) (bytes : List UInt8) :
    value (b :: bytes) = b.toNat * 256 ^ bytes.length + value bytes := by
  rw [value, List.foldl_cons, foldl_eq_value]
  simp

theorem value_lt : value bytes < 256 ^ bytes.length := by
  induction bytes with
  | nil => simp [value]
  | cons b bytes ih =>
    have hb : b.toNat + 1 ≤ 256 := b.toNat_lt
    calc value (b :: bytes) = b.toNat * 256 ^ bytes.length + value bytes := value_cons b bytes
      _ < (b.toNat + 1) * 256 ^ bytes.length := by rw [Nat.add_mul]; omega
      _ ≤ 256 * 256 ^ bytes.length := Nat.mul_le_mul_right _ hb
      _ = 256 ^ (b :: bytes).length := by rw [List.length_cons, pow_succ, Nat.mul_comm]

theorem value_bigEndian (width n : Nat) : value (bigEndian width n) = n % 256 ^ width := by
  induction width with
  | zero => simp [bigEndian, value, Nat.mod_one]
  | succ width ih =>
    have hpow : (2 : Nat) ^ (8 * width) = 256 ^ width := by rw [Nat.pow_mul]
    have hbyte : ((n >>> (8 * width)).toUInt8).toNat = n / 256 ^ width % 256 := by
      rw [Nat.shiftRight_eq_div_pow, hpow]
      simp
    rw [bigEndian, value_cons, length_bigEndian, ih, hbyte, pow_succ, Nat.mod_mul]
    ring

theorem bigEndian_add_mul (width n k : Nat) :
    bigEndian width (n + 256 ^ width * k) = bigEndian width n := by
  induction width generalizing k with
  | zero => rfl
  | succ width ih =>
    have hpow : (2 : Nat) ^ (8 * width) = 256 ^ width := by rw [Nat.pow_mul]
    have hpos : 0 < 256 ^ width := Nat.pow_pos (by decide)
    have hs : n + 256 ^ (width + 1) * k = n + 256 ^ width * (256 * k) := by
      rw [pow_succ, Nat.mul_assoc]
    have hh : (n + 256 ^ width * (256 * k)) / 256 ^ width = n / 256 ^ width + 256 * k :=
      Nat.add_mul_div_left _ _ hpos
    rw [bigEndian, bigEndian, hs, ih, Nat.shiftRight_eq_div_pow, Nat.shiftRight_eq_div_pow,
      hpow, hh]
    simp

theorem bigEndian_value {bytes : List UInt8} {width : Nat} (h : bytes.length = width) :
    bigEndian width (value bytes) = bytes := by
  induction bytes generalizing width with
  | nil =>
    subst h
    rfl
  | cons b bytes ih =>
    subst h
    have hlt := value_lt bytes
    have hpos : 0 < 256 ^ bytes.length := Nat.pow_pos (by decide)
    have hpow : (2 : Nat) ^ (8 * bytes.length) = 256 ^ bytes.length := by rw [Nat.pow_mul]
    have hs : value (b :: bytes) = value bytes + 256 ^ bytes.length * b.toNat := by
      rw [value_cons, Nat.add_comm, Nat.mul_comm]
    have hh : value (b :: bytes) / 256 ^ bytes.length = b.toNat := by
      rw [hs, Nat.add_mul_div_left _ _ hpos, Nat.div_eq_of_lt hlt, Nat.zero_add]
    rw [List.length_cons, bigEndian, Nat.shiftRight_eq_div_pow, hpow, hh, hs,
      bigEndian_add_mul, ih rfl]
    simp

/-! ## Machine words -/

/-- A type of unsigned words that fit a number of bytes exactly. -/
structure Word (width : Nat) (W : Type*) where
  toNat : W → Nat
  ofNat : Nat → W
  toNat_lt : ∀ w, toNat w < 256 ^ width
  ofNat_toNat : ∀ w, ofNat (toNat w) = w
  toNat_ofNat : ∀ n, n < 256 ^ width → toNat (ofNat n) = n

namespace Word

variable {width : Nat} {W : Type*} (word : Word width W)

def encode (w : W) : List UInt8 :=
  bigEndian width (word.toNat w)

def decode (bytes : List UInt8) : W :=
  word.ofNat (value bytes)

@[simp] theorem length_encode (w : W) : (word.encode w).length = width :=
  length_bigEndian width (word.toNat w)

@[simp] theorem decode_encode (w : W) : word.decode (word.encode w) = w := by
  rw [decode, encode, value_bigEndian, Nat.mod_eq_of_lt (word.toNat_lt w), word.ofNat_toNat]

theorem encode_decode {bytes : List UInt8} (h : bytes.length = width) :
    word.encode (word.decode bytes) = bytes := by
  have hlt : value bytes < 256 ^ width := h ▸ value_lt bytes
  rw [encode, decode, word.toNat_ofNat _ hlt, bigEndian_value h]

end Word

/-! ## Readers, writers and layouts -/

section Layout

variable {α ε : Type*}

/-- The reader takes values off the front of its input, exactly the valid ones
and each in its layout. -/
def Reads (read : List UInt8 → Except ε α × List UInt8) (Valid : α → Prop)
    (layout : α → List UInt8) : Prop :=
  ∀ bytes a rest, read bytes = (.ok a, rest) ↔ Valid a ∧ bytes = layout a ++ rest

/-- Decoding inverts encoding on the values `Known`, and encoding inverts decoding. -/
structure Canonical (Known : α → Prop) (encode : α → Except ε (List UInt8))
    (decode : List UInt8 → Except ε α) : Prop where
  decode_encode : ∀ a bytes, Known a → encode a = .ok bytes → decode bytes = .ok a
  encode_decode : ∀ bytes a, decode bytes = .ok a → encode a = .ok bytes

/-- An encoder and a decoder that are each described by one layout are inverse to
each other on the values both of them are for. -/
theorem Canonical.of_layout {Known Valid : α → Prop} {layout : α → List UInt8}
    {encode : α → Except ε (List UInt8)} {decode : List UInt8 → Except ε α}
    (he : ∀ a bytes, encode a = .ok bytes ↔ Valid a ∧ bytes = layout a)
    (hd : ∀ bytes a, decode bytes = .ok a ↔ (Known a ∧ Valid a) ∧ bytes = layout a) :
    Canonical Known encode decode where
  decode_encode a bytes hk h := by
    obtain ⟨hval, hby⟩ := (he a bytes).1 h
    exact (hd bytes a).2 ⟨⟨hk, hval⟩, hby⟩
  encode_decode bytes a h := by
    obtain ⟨⟨-, hval⟩, hby⟩ := (hd bytes a).1 h
    exact (he a bytes).2 ⟨hval, hby⟩

end Layout

end Wire
