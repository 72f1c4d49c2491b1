import Mathlib.Data.List.OfFn

/-!
# The first bits of byte strings

A byte string is a string of bits as well: those of its bytes, the most significant of a
byte first. Two byte strings share some bits if the strings of their bits begin with the
same so many (`Bits.Share`).

To compare bits one need not take bytes apart. Of eight bits or more, the first eight are
the first byte (`Bits.share_cons_iff_of_le`); fewer are those that a mask leaves of it
(`Bits.and_mask_eq_iff`).
-/

namespace Bits

/-- The bits of a byte, the most significant first. -/
def ofByte (byte : UInt8) : List Bool := List.ofFn (fun i : Fin 8 => byte.toBitVec.getMsbD i)

/-- The bits of a byte string. -/
def ofBytes (bytes : List UInt8) : List Bool := bytes.flatMap ofByte

/-- **Two byte strings share so many bits**: these are the same in both, and first. -/
def Share (count : ℕ) (a b : List UInt8) : Prop :=
  (ofBytes a).take count = (ofBytes b).take count

instance (count : ℕ) (a b : List UInt8) : Decidable (Share count a b) :=
  inferInstanceAs (Decidable (_ = _))

/-- The mask of the first bits of a byte, of which there is one at least. -/
def mask (count : ℕ) : UInt8 := 0xFF <<< (8 - count).toUInt8

@[simp] theorem length_ofByte (byte : UInt8) : (ofByte byte).length = 8 := List.length_ofFn

theorem getElem?_ofByte (byte : UInt8) (i : Fin 8) :
    (ofByte byte)[(i : ℕ)]? = some (byte.toBitVec.getMsbD i) := by
  rw [ofByte, List.getElem?_ofFn, dif_pos i.isLt]

/-! ## Bytes -/

/-- A byte is its bits. -/
theorem ofByte_inj {a b : UInt8} : ofByte a = ofByte b ↔ a = b := by
  constructor
  · intro h
    have hbits := List.ofFn_injective h
    refine UInt8.toBitVec_inj.mp (BitVec.eq_of_getMsbD_eq (fun i hi => ?_))
    exact congrFun hbits ⟨i, hi⟩
  · exact congrArg ofByte

/-- The first bits of two bytes are the same if each of them is. -/
theorem take_ofByte_eq_iff {a b : UInt8} {count : ℕ} :
    (ofByte a).take count = (ofByte b).take count ↔
      ∀ i : Fin 8, i < count → a.toBitVec.getMsbD i = b.toBitVec.getMsbD i := by
  constructor
  · intro h i hi
    have hget := congrArg (fun bits : List Bool => bits[(i : ℕ)]?) h
    simpa only [List.getElem?_take_of_lt hi, getElem?_ofByte, Option.some_inj] using hget
  · intro h
    refine List.ext_getElem? (fun i => ?_)
    by_cases hi : i < count
    · rw [List.getElem?_take_of_lt hi, List.getElem?_take_of_lt hi]
      by_cases hlt : i < 8
      · rw [getElem?_ofByte a ⟨i, hlt⟩, getElem?_ofByte b ⟨i, hlt⟩, h ⟨i, hlt⟩ hi]
      · rw [List.getElem?_eq_none (by simpa using hlt), List.getElem?_eq_none (by simpa using hlt)]
    · rw [List.getElem?_take_eq_none (by omega), List.getElem?_take_eq_none (by omega)]

/-- The bits of the mask. -/
theorem getMsbD_mask (count i : Fin 8) (h : 0 < (count : ℕ)) :
    (mask count).toBitVec.getMsbD i = decide ((i : ℕ) < count) := by
  revert count i
  decide

/-- **A mask leaves the first bits**: bytes are the same behind it exactly if these are. -/
theorem and_mask_eq_iff {a b : UInt8} {count : ℕ} (hpos : 0 < count) (hlt : count < 8) :
    a &&& mask count = b &&& mask count ↔
      (ofByte a).take count = (ofByte b).take count := by
  have hmask (i : Fin 8) := getMsbD_mask ⟨count, hlt⟩ i hpos
  rw [take_ofByte_eq_iff, ← UInt8.toBitVec_inj, UInt8.toBitVec_and, UInt8.toBitVec_and]
  constructor
  · intro h i hi
    have hbit := congrArg (fun bits : BitVec 8 => bits.getMsbD i) h
    simpa [BitVec.getMsbD_and, hmask i, hi] using hbit
  · intro h
    refine BitVec.eq_of_getMsbD_eq (fun i hi => ?_)
    rw [BitVec.getMsbD_and, BitVec.getMsbD_and, hmask ⟨i, hi⟩]
    by_cases hcount : i < count
    · rw [h ⟨i, hi⟩ hcount]
    · simp [hcount]

/-! ## Byte strings -/

variable {a b : UInt8} {as bs : List UInt8} {count : ℕ}

@[simp] theorem ofBytes_cons : ofBytes (a :: as) = ofByte a ++ ofBytes as := List.flatMap_cons

theorem share_zero : Share 0 as bs := rfl

/-- Eight bits or more are those of the first byte, and others. -/
theorem share_cons_iff_of_le (h : 8 ≤ count) :
    Share count (a :: as) (b :: bs) ↔ a = b ∧ Share (count - 8) as bs := by
  have htake (byte : UInt8) (bytes : List UInt8) :
      (ofBytes (byte :: bytes)).take count = ofByte byte ++ (ofBytes bytes).take (count - 8) := by
    rw [ofBytes_cons, List.take_append, length_ofByte, List.take_of_length_le (by simpa using h)]
  unfold Share
  rw [htake, htake, ← ofByte_inj]
  constructor
  · exact fun h => List.append_inj h (by simp)
  · rintro ⟨hbyte, hrest⟩
    rw [hbyte, hrest]

/-- Fewer than eight bits are in the first byte. -/
theorem share_cons_iff_of_lt (h : count < 8) :
    Share count (a :: as) (b :: bs) ↔ (ofByte a).take count = (ofByte b).take count := by
  have htake (byte : UInt8) (bytes : List UInt8) :
      (ofBytes (byte :: bytes)).take count = (ofByte byte).take count := by
    rw [ofBytes_cons, List.take_append_of_le_length (by simpa using h.le)]
  unfold Share
  rw [htake, htake]

end Bits
