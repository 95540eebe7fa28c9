import Mathlib.Data.String.Basic
import Mathlib.Data.UInt

set_option autoImplicit false
set_option relaxedAutoImplicit false

/-!
# The order of texts and the order of their bytes

Texts are compared character by character. Comparing their bytes comes to the same: a character with
a greater number has greater bytes at the first place where they differ, and no character is written
with the first bytes of another one.

## Main definitions

* `Text.bytes` — the bytes of a text.

## Main results

* `Text.encode_append_lt` — the order of two characters is that of their bytes.
* `Text.bytes_lt_bytes_iff` — the order of two texts is that of their bytes.
-/

namespace NullLint.Text

/-- The bytes of a text. -/
def bytes (s : String) : List UInt8 :=
  s.toUTF8.data.toList

theorem bytes_eq_flatMap (s : String) : bytes s = s.toList.flatMap String.utf8EncodeChar := by
  rw [bytes, String.toUTF8_eq_toByteArray, ← String.utf8Encode_toList, List.utf8Encode,
    List.toList_data_toByteArray]

/-- A text is given by its bytes. -/
theorem bytes_inj {s t : String} : bytes s = bytes t ↔ s = t := by
  rw [bytes, bytes, Array.toList_inj, ← ByteArray.ext_iff, String.toUTF8_eq_toByteArray,
    String.toUTF8_eq_toByteArray, String.toByteArray_inj]

/-- A list of bytes comes before another one if its first byte is smaller. -/
theorem cons_lt_of_lt {a b : Nat} (as bs : List UInt8) (h : a % 256 < b % 256) :
    UInt8.ofNat a :: as < UInt8.ofNat b :: bs := by
  rw [List.cons_lt_cons_iff, UInt8.lt_iff_toNat_lt, UInt8.toNat_ofNat', UInt8.toNat_ofNat']
  exact Or.inl h

/-- A list of bytes comes before another one if its first byte is not greater, and the rest decides
where the first bytes are equal. -/
theorem cons_lt_of_le {a b : Nat} {as bs : List UInt8} (h : a % 256 ≤ b % 256)
    (hrest : a % 256 = b % 256 → as < bs) : UInt8.ofNat a :: as < UInt8.ofNat b :: bs := by
  rcases Nat.lt_or_eq_of_le h with hlt | heq
  · exact cons_lt_of_lt as bs hlt
  · rw [List.cons_lt_cons_iff, ← UInt8.toNat_inj, UInt8.toNat_ofNat', UInt8.toNat_ofNat']
    exact Or.inr ⟨heq, hrest heq⟩

/-- The bytes of a character come before those of a character with a greater number, whatever
follows them.

**Proof sketch.** By the numbers of bytes that the two characters take. If they take equally many,
the first place where the bytes differ is the first place where the numbers do; if they do not, the
first bytes differ. -/
theorem encode_append_lt {c d : Char} (h : c < d) (xs ys : List UInt8) :
    String.utf8EncodeChar c ++ xs < String.utf8EncodeChar d ++ ys := by
  have hlt : c.val.toNat < d.val.toNat := h
  have hmax : d.val.toNat < 1114112 := by
    have := d.valid
    rw [UInt32.isValidChar, Nat.isValidChar] at this
    omega
  rw [String.utf8EncodeChar, String.utf8EncodeChar]
  generalize c.val.toNat = v at hlt
  generalize d.val.toNat = w at hlt hmax
  -- what is left after this: both take two bytes, both take three, both take four
  split_ifs <;> first | omega | exact cons_lt_of_lt _ _ (by omega) | skip
  · exact cons_lt_of_le (by omega) fun _ => cons_lt_of_lt _ _ (by omega)
  · exact cons_lt_of_le (by omega) fun _ => cons_lt_of_le (by omega) fun _ =>
      cons_lt_of_lt _ _ (by omega)
  · exact cons_lt_of_le (by omega) fun _ => cons_lt_of_le (by omega) fun _ =>
      cons_lt_of_le (by omega) fun _ => cons_lt_of_lt _ _ (by omega)

/-- Lists of characters are in the order of their bytes. -/
theorem flatMap_encode_lt {cs ds : List Char} (h : cs < ds) :
    cs.flatMap String.utf8EncodeChar < ds.flatMap String.utf8EncodeChar := by
  induction cs generalizing ds with
  | nil =>
    cases ds with
    | nil => exact absurd h (List.lt_irrefl [])
    | cons d ds =>
      obtain ⟨b, bs, hb⟩ := List.exists_cons_of_ne_nil (String.utf8EncodeChar_ne_nil (c := d))
      rw [List.flatMap_nil, List.flatMap_cons, hb]
      exact List.nil_lt_cons b _
  | cons c cs ih =>
    cases ds with
    | nil => exact absurd h (List.not_lt_nil _)
    | cons d ds =>
      rw [List.flatMap_cons, List.flatMap_cons]
      rcases List.cons_lt_cons_iff.mp h with hc | ⟨rfl, hcs⟩
      · exact encode_append_lt hc _ _
      · exact List.append_left_lt (ih hcs)

/-- Texts are in the order of their bytes.

**Proof sketch.** The order of the characters is carried over to the bytes, and so is the reverse
order. -/
theorem bytes_lt_bytes_iff {s t : String} : bytes s < bytes t ↔ s < t := by
  have hlt : ∀ {s t : String}, s < t → bytes s < bytes t := by
    intro s t h
    rw [bytes_eq_flatMap, bytes_eq_flatMap]
    exact flatMap_encode_lt (String.lt_iff.mp h)
  refine ⟨fun h => ?_, hlt⟩
  rcases lt_trichotomy s t with hst | rfl | hts
  · exact hst
  · exact absurd h (List.lt_irrefl _)
  · exact absurd h (List.lt_asymm (hlt hts))

end NullLint.Text
