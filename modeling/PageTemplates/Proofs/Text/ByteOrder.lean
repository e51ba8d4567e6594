import PageTemplates.SortedMap

/-!
# The order of texts is that of their bytes

Texts are compared character by character, and UTF-8 keeps that order: of two characters the lesser
one begins with lesser bytes, and none of the two begins like the other one as a whole.
-/

namespace PageTemplates.Text

/-- The bytes of a text in UTF-8. -/
def bytes (s : String) : List UInt8 := s.toUTF8.data.toList

/-- The first difference of two byte sequences is inside of both, and the first one is less there. -/
def Diverges : List UInt8 → List UInt8 → Prop
  | a :: x, b :: y => a < b ∨ a = b ∧ Diverges x y
  | _, _ => False

theorem Diverges.append_lt {x y : List UInt8} (h : Diverges x y) (x' y' : List UInt8) :
    x ++ x' < y ++ y' := by
  induction x generalizing y with
  | nil => cases h
  | cons a x ih =>
    cases y with
    | nil => cases h
    | cons b y =>
      refine List.cons_lt_cons_iff.2 ?_
      exact h.imp id fun ⟨hab, hxy⟩ => ⟨hab, ih hxy⟩

theorem diverges_utf8EncodeChar {c d : Char} (h : c < d) :
    Diverges (String.utf8EncodeChar c) (String.utf8EncodeChar d) := by
  have hlt : c.val.toNat < d.val.toNat := h
  have hd : d.val.toNat < 0x110000 := by
    have hvalid := d.valid
    unfold UInt32.isValidChar Nat.isValidChar at hvalid
    omega
  have hdiv (v : Nat) : v / 4096 = v / 64 / 64 ∧ v / 262144 = v / 64 / 64 / 64 := by omega
  -- the digits to base 64 are compared from the first one on, and longer codes begin with more
  simp only [String.utf8EncodeChar]
  repeat' split
  all_goals
    simp only [hdiv, Diverges, UInt8.lt_iff_toNat_lt, ← UInt8.toNat_inj, UInt8.toNat_ofNat', and_false,
      or_false]
    omega

theorem bytes_eq (s : String) : bytes s = s.toList.flatMap String.utf8EncodeChar := by
  have h : s.toUTF8 = (s.toList.flatMap String.utf8EncodeChar).toByteArray :=
    String.utf8Encode_toList.symm
  rw [bytes, h, List.data_toByteArray]

theorem flatMap_lt_of_lex {cs ds : List Char} (h : List.Lex (· < ·) cs ds) :
    cs.flatMap String.utf8EncodeChar < ds.flatMap String.utf8EncodeChar := by
  induction h with
  | @nil c cs =>
    obtain ⟨b, bs, hc⟩ := List.exists_cons_of_ne_nil (String.utf8EncodeChar_ne_nil (c := c))
    rw [List.flatMap_cons, hc]
    exact List.nil_lt_cons ..
  | rel hcd => exact (diverges_utf8EncodeChar hcd).append_lt _ _
  | cons _ ih => exact List.append_left_lt ih

theorem bytes_lt_of_compare {s s' : String} (h : compare s s' = .lt) : bytes s < bytes s' := by
  have hlt : s < s' := compareOfLessAndEq_eq_lt.1 h
  rw [bytes_eq, bytes_eq]
  exact flatMap_lt_of_lex hlt

end PageTemplates.Text
