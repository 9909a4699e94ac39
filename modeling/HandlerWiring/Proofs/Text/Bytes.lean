import Mathlib.Data.List.Basic

/-!
# The order of texts and of their bytes

Texts are ordered code point by code point. In UTF-8 this is the order of their bytes: a code point
that needs more bytes starts with a larger one, and of two code points of the same length the first
bytes that differ are in the order of the code points. So no code is the start of another, and the
first code points that differ decide.
-/

namespace HandlerWiring.Text

/-- The bytes of a text in UTF-8. -/
def bytes (s : String) : List UInt8 := s.toUTF8.data.toList

theorem bytes_eq (s : String) : bytes s = s.toList.flatMap String.utf8EncodeChar := by
  rw [bytes, String.toUTF8_eq_toByteArray]
  conv => lhs; rw [← String.ofList_toList (s := s)]
  exact List.toList_data_toByteArray

/-! ## Codes of one length -/

/-- A byte list comes before another, whatever stands behind the two. -/
def Precedes (code code' : List UInt8) : Prop :=
  ∀ rest rest', code ++ rest < code' ++ rest'

/-- A list that starts with a smaller byte comes first. -/
theorem precedes_of_first {a b : Nat} (smaller : a < b) (small : b < 256)
    (code code' : List UInt8) : Precedes (UInt8.ofNat a :: code) (UInt8.ofNat b :: code') := by
  intro rest rest'
  rw [List.cons_append, List.cons_append, List.cons_lt_cons_iff]
  left
  rw [UInt8.lt_iff_toNat_lt, UInt8.toNat_ofNat', UInt8.toNat_ofNat']
  omega

/-- The order goes on through one more byte with six bits of the number. -/
theorem precedes_continued (code : Nat → List UInt8) {m n : Nat} (smaller : m < n)
    (front : m / 64 < n / 64 → Precedes (code (m / 64)) (code (n / 64))) :
    Precedes (code (m / 64) ++ [UInt8.ofNat (m % 64 + 128)])
      (code (n / 64) ++ [UInt8.ofNat (n % 64 + 128)]) := by
  intro rest rest'
  rw [List.append_assoc, List.append_assoc]
  by_cases same : m / 64 = n / 64
  · rw [same]
    exact List.append_left_lt (precedes_of_first (by omega) (by omega) [] [] rest rest')
  · exact front (by omega) _ _

theorem precedes_two {m n : Nat} (smaller : m < n) (bound : n ≤ 0x7ff) :
    Precedes [UInt8.ofNat (m / 64 % 32 + 192), UInt8.ofNat (m % 64 + 128)]
      [UInt8.ofNat (n / 64 % 32 + 192), UInt8.ofNat (n % 64 + 128)] :=
  precedes_continued (fun k => [UInt8.ofNat (k % 32 + 192)]) smaller fun front =>
    precedes_of_first (by omega) (by omega) [] []

theorem precedes_three {m n : Nat} (smaller : m < n) (bound : n ≤ 0xffff) :
    Precedes
      [UInt8.ofNat (m / 4096 % 16 + 224), UInt8.ofNat (m / 64 % 64 + 128),
        UInt8.ofNat (m % 64 + 128)]
      [UInt8.ofNat (n / 4096 % 16 + 224), UInt8.ofNat (n / 64 % 64 + 128),
        UInt8.ofNat (n % 64 + 128)] := by
  have cut (k : Nat) : k / 4096 = k / 64 / 64 := (Nat.div_div_eq_div_mul k 64 64).symm
  rw [cut, cut]
  refine precedes_continued
    (fun k => [UInt8.ofNat (k / 64 % 16 + 224), UInt8.ofNat (k % 64 + 128)])
    smaller fun front => ?_
  exact precedes_continued (fun k => [UInt8.ofNat (k % 16 + 224)]) front fun first =>
    precedes_of_first (by omega) (by omega) [] []

theorem precedes_four {m n : Nat} (smaller : m < n) (bound : n < 0x110000) :
    Precedes
      [UInt8.ofNat (m / 262144 % 8 + 240), UInt8.ofNat (m / 4096 % 64 + 128),
        UInt8.ofNat (m / 64 % 64 + 128), UInt8.ofNat (m % 64 + 128)]
      [UInt8.ofNat (n / 262144 % 8 + 240), UInt8.ofNat (n / 4096 % 64 + 128),
        UInt8.ofNat (n / 64 % 64 + 128), UInt8.ofNat (n % 64 + 128)] := by
  have cut (k : Nat) : k / 4096 = k / 64 / 64 := (Nat.div_div_eq_div_mul k 64 64).symm
  have cut' (k : Nat) : k / 262144 = k / 64 / 64 / 64 := by
    rw [← cut, Nat.div_div_eq_div_mul]
  rw [cut, cut, cut', cut']
  refine precedes_continued
    (fun k => [UInt8.ofNat (k / 64 / 64 % 8 + 240), UInt8.ofNat (k / 64 % 64 + 128),
      UInt8.ofNat (k % 64 + 128)]) smaller fun front => ?_
  refine precedes_continued
    (fun k => [UInt8.ofNat (k / 64 % 8 + 240), UInt8.ofNat (k % 64 + 128)])
    front fun middle => ?_
  exact precedes_continued (fun k => [UInt8.ofNat (k % 8 + 240)]) middle fun first =>
    precedes_of_first (by omega) (by omega) [] []

/-! ## Code points and texts -/

/-- The code of a smaller code point comes first, whatever stands behind it. -/
theorem precedes_utf8EncodeChar {c d : Char} (smaller : c < d) :
    Precedes (String.utf8EncodeChar c) (String.utf8EncodeChar d) := by
  have below : c.val.toNat < d.val.toNat := smaller
  have bound : d.val.toNat < 0x110000 := by
    rcases d.valid with low | high
    · omega
    · exact high.2
  unfold String.utf8EncodeChar
  generalize c.val.toNat = m at below ⊢
  generalize d.val.toNat = n at below bound ⊢
  dsimp only
  -- By the length of the first code; a shorter one behind it contradicts `below`.
  split
  · split
    · exact precedes_of_first below (by omega) [] []
    · repeat' split
      all_goals exact precedes_of_first (by omega) (by omega) _ _
  · rw [if_neg (by omega : ¬n ≤ 127)]
    split
    · split
      · next short => exact precedes_two below short
      · split
        all_goals exact precedes_of_first (by omega) (by omega) _ _
    · rw [if_neg (by omega : ¬n ≤ 2047)]
      split
      · split
        · next short => exact precedes_three below short
        · exact precedes_of_first (by omega) (by omega) _ _
      · rw [if_neg (by omega : ¬n ≤ 65535)]
        exact precedes_four below bound

/-- The bytes of a smaller text are smaller. -/
theorem flatMap_utf8EncodeChar_lt {cs ds : List Char} (smaller : cs < ds) :
    cs.flatMap String.utf8EncodeChar < ds.flatMap String.utf8EncodeChar := by
  induction cs generalizing ds with
  | nil =>
    cases ds with
    | nil => exact absurd smaller (List.lt_irrefl [])
    | cons d ds =>
      obtain ⟨b, bs, code⟩ := List.exists_cons_of_ne_nil (String.utf8EncodeChar_ne_nil (c := d))
      rw [List.flatMap_cons, code]
      exact List.nil_lt_cons b _
  | cons c cs ih =>
    cases ds with
    | nil => exact absurd smaller (List.not_lt_nil _)
    | cons d ds =>
      rw [List.flatMap_cons, List.flatMap_cons]
      rcases List.cons_lt_cons_iff.mp smaller with first | ⟨rfl, later⟩
      · exact precedes_utf8EncodeChar first _ _
      · exact List.append_left_lt (ih later)

/-- One text is smaller than another exactly if its bytes are. -/
theorem lt_iff_bytes_lt {s t : String} : s < t ↔ bytes s < bytes t := by
  have keeps {s t : String} (smaller : s < t) : bytes s < bytes t := by
    rw [bytes_eq, bytes_eq]
    exact flatMap_utf8EncodeChar_lt (String.lt_iff.mp smaller)
  refine ⟨keeps, fun smaller => ?_⟩
  by_contra notSmaller
  by_cases reversed : t < s
  · exact List.lt_asymm smaller (keeps reversed)
  · have same : s = t :=
      String.le_antisymm (String.not_lt.mp reversed) (String.not_lt.mp notSmaller)
    subst same
    exact List.lt_irrefl _ smaller

end HandlerWiring.Text
