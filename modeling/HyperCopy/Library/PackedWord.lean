import Mathlib.Algebra.Order.Group.Nat
import Mathlib.Data.Nat.Bitwise

/-!
# Packed words

Fields of fixed widths are packed into one natural number by shifting each to its offset and
joining them with a bitwise or.  `bits` reads a field back.  The rules say that reading distributes
over the join, that a field in range is read back at its own offset, and that nothing is read of it
at an offset it does not reach.  `pack` is the word of a list of placed fields: without overlaps
every field is read back from it (`bits_pack`), and it ends where its last field does (`pack_lt`).

`toBytes` writes a number as a big-endian byte string of a given length, which determines the
number when it fits.
-/

namespace PackedWord

/-- The `width` bits of a word from bit `offset` on. -/
def bits (offset width word : ℕ) : ℕ :=
  (word >>> offset) % 2 ^ width

section Bits

variable {offset width shift size x y : ℕ}

lemma testBit_bits (offset width x i : ℕ) :
    (bits offset width x).testBit i = (decide (i < width) && x.testBit (offset + i)) := by
  rw [bits, Nat.testBit_mod_two_pow, Nat.testBit_shiftRight]

/-- Reading distributes over the join. -/
lemma bits_or (offset width x y : ℕ) :
    bits offset width (x ||| y) = bits offset width x ||| bits offset width y := by
  apply Nat.eq_of_testBit_eq
  intro i
  simp only [testBit_bits, Nat.testBit_or]
  exact Bool.and_or_distrib_left _ _ _

/-- A field in range is read back at its own offset. -/
lemma bits_shiftLeft_self (h : x < 2 ^ width) : bits offset width (x <<< offset) = x := by
  rw [bits, Nat.shiftLeft_shiftRight, Nat.mod_eq_of_lt h]

/-- A field is not seen at an offset below it. -/
lemma bits_shiftLeft_above (h : offset + width ≤ shift) :
    bits offset width (x <<< shift) = 0 := by
  apply Nat.eq_of_testBit_eq
  intro i
  rw [testBit_bits, Nat.testBit_shiftLeft, Nat.zero_testBit]
  by_cases hi : i < width
  · have hshift : ¬ shift ≤ offset + i := by omega
    simp [hshift]
  · simp [hi]

/-- A field is not seen at an offset past it. -/
lemma bits_shiftLeft_below (hx : x < 2 ^ size) (h : shift + size ≤ offset) :
    bits offset width (x <<< shift) = 0 := by
  apply Nat.eq_of_testBit_eq
  intro i
  rw [testBit_bits, Nat.testBit_shiftLeft, Nat.zero_testBit]
  have hlt : x < 2 ^ (offset + i - shift) :=
    lt_of_lt_of_le hx (Nat.pow_le_pow_right Nat.two_pos (by omega))
  simp [Nat.testBit_lt_two_pow hlt]

/-- A field in range, shifted, stays below the power of two its end reaches. -/
lemma shiftLeft_lt (hx : x < 2 ^ size) (h : shift + size ≤ width) : x <<< shift < 2 ^ width := by
  rw [Nat.shiftLeft_eq]
  calc x * 2 ^ shift < 2 ^ size * 2 ^ shift := Nat.mul_lt_mul_of_pos_right hx (Nat.two_pow_pos shift)
    _ = 2 ^ (shift + size) := by rw [Nat.pow_add, Nat.mul_comm]
    _ ≤ 2 ^ width := Nat.pow_le_pow_right Nat.two_pos h

end Bits

/-! ## A word of several fields -/

/-- A field with the place it is packed at. -/
structure Field where
  offset : ℕ
  width : ℕ
  value : ℕ

/-- The value is in range for the width. -/
def Field.Fits (f : Field) : Prop := f.value < 2 ^ f.width

/-- Two fields share no bit. -/
def Field.Apart (f g : Field) : Prop :=
  f.offset + f.width ≤ g.offset ∨ g.offset + g.width ≤ f.offset

/-- The word the fields are packed into. -/
def pack : List Field → ℕ
  | [] => 0
  | f :: fields => f.value <<< f.offset ||| pack fields

section Pack

variable {f g : Field} {fields : List Field}

/-- Nothing of a field is read at the place of a field apart from it. -/
lemma bits_shiftLeft_apart (hg : g.Fits) (h : f.Apart g) :
    bits f.offset f.width (g.value <<< g.offset) = 0 := by
  rcases h with h | h
  · exact bits_shiftLeft_above h
  · exact bits_shiftLeft_below hg h

lemma bits_pack_apart (hfits : ∀ g ∈ fields, g.Fits) (h : ∀ g ∈ fields, f.Apart g) :
    bits f.offset f.width (pack fields) = 0 := by
  induction fields with
  | nil => simp [pack, bits]
  | cons g fields ih =>
      have hg : bits f.offset f.width (g.value <<< g.offset) = 0 :=
        bits_shiftLeft_apart (hfits g List.mem_cons_self) (h g List.mem_cons_self)
      have hrest : bits f.offset f.width (pack fields) = 0 :=
        ih (fun k hk => hfits k (List.mem_cons_of_mem _ hk))
          fun k hk => h k (List.mem_cons_of_mem _ hk)
      rw [pack, bits_or, hg, hrest, Nat.zero_or]

/-- Every field of a packing without overlaps is read back at its place. -/
theorem bits_pack (hfits : ∀ g ∈ fields, g.Fits) (hapart : fields.Pairwise Field.Apart)
    (hf : f ∈ fields) : bits f.offset f.width (pack fields) = f.value := by
  induction fields with
  | nil => cases hf
  | cons g fields ih =>
      obtain ⟨hhead, htail⟩ := List.pairwise_cons.1 hapart
      have hrest : ∀ k ∈ fields, k.Fits := fun k hk => hfits k (List.mem_cons_of_mem _ hk)
      have hg : g.Fits := hfits g List.mem_cons_self
      rw [pack, bits_or]
      cases hf with
      | head =>
          rw [bits_shiftLeft_self hg, bits_pack_apart hrest hhead, Nat.or_zero]
      | tail _ hf =>
          have happart : f.Apart g := (hhead f hf).symm
          rw [bits_shiftLeft_apart hg happart, ih hrest htail hf, Nat.zero_or]

/-- A packing ends where its last field does. -/
theorem pack_lt {width : ℕ} (hfits : ∀ g ∈ fields, g.Fits)
    (hend : ∀ g ∈ fields, g.offset + g.width ≤ width) : pack fields < 2 ^ width := by
  induction fields with
  | nil => exact Nat.two_pow_pos width
  | cons g fields ih =>
      apply Nat.or_lt_two_pow
      · exact shiftLeft_lt (hfits g List.mem_cons_self) (hend g List.mem_cons_self)
      · exact ih (fun k hk => hfits k (List.mem_cons_of_mem _ hk))
          fun k hk => hend k (List.mem_cons_of_mem _ hk)

end Pack

/-! ## Big-endian byte strings -/

/-- The low `length` bytes of a number, the most significant first. -/
def toBytes : ℕ → ℕ → List UInt8
  | 0, _ => []
  | length + 1, value => toBytes length (value / 256) ++ [UInt8.ofNat (value % 256)]

@[simp] lemma length_toBytes (length value : ℕ) : (toBytes length value).length = length := by
  induction length generalizing value with
  | zero => rfl
  | succ length ih => rw [toBytes, List.length_append, ih, List.length_singleton]

/-- The byte string determines a number that fits. -/
lemma toBytes_inj {length value value' : ℕ} (h : value < 256 ^ length)
    (h' : value' < 256 ^ length) :
    toBytes length value = toBytes length value' ↔ value = value' := by
  induction length generalizing value value' with
  | zero =>
      rw [Nat.pow_zero, Nat.lt_one_iff] at h h'
      simp [h, h']
  | succ length ih =>
      have hhigh : value / 256 < 256 ^ length := by
        rw [Nat.div_lt_iff_lt_mul (by decide)]
        rwa [Nat.pow_succ] at h
      have hhigh' : value' / 256 < 256 ^ length := by
        rw [Nat.div_lt_iff_lt_mul (by decide)]
        rwa [Nat.pow_succ] at h'
      constructor
      · intro heq
        rw [toBytes, toBytes] at heq
        obtain ⟨hfront, hlast⟩ := List.append_inj' heq rfl
        have hquot : value / 256 = value' / 256 := (ih hhigh hhigh').1 hfront
        have hrem : value % 256 = value' % 256 := by
          have hbyte := congrArg UInt8.toNat (List.cons.inj hlast).1
          rw [UInt8.toNat_ofNat', UInt8.toNat_ofNat'] at hbyte
          omega
        omega
      · rintro rfl
        rfl

/-- Two byte strings that begin with words of one length agree exactly when the words do and the
rests do. -/
lemma toBytes_append_inj {length value value' : ℕ} {rest rest' : List UInt8}
    (h : value < 256 ^ length) (h' : value' < 256 ^ length) :
    toBytes length value ++ rest = toBytes length value' ++ rest' ↔
      value = value' ∧ rest = rest' := by
  constructor
  · intro heq
    obtain ⟨hword, hrest⟩ := List.append_inj heq (by simp)
    exact ⟨(toBytes_inj h h').1 hword, hrest⟩
  · rintro ⟨rfl, rfl⟩
    rfl

end PackedWord
