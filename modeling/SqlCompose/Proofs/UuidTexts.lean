/-
# UUIDs are read back

The text of a UUID is one of the forms that are read, the one of 36 characters with hyphens, and
reading it gives the UUID (`Uuid.read_text`).  The hyphens stand where the groups of 8, 4, 4, 4
and 12 digits end, whatever the digits are.
-/

import SqlCompose.Proofs.CalendarTexts
import SqlCompose.Uuid.Reader

namespace SqlCompose

/-- A text of characters of one byte has as many bytes as characters. -/
theorem Text.byteLength_eq_length {cs : List Char} (single : ∀ c ∈ cs, c.utf8Size = 1) :
    byteLength cs = cs.length := by
  induction cs with
  | nil => rfl
  | cons c rest ih =>
      rw [byteLength_cons, single c List.mem_cons_self,
        ih fun d inRest => single d (List.mem_cons_of_mem c inRest), List.length_cons, Nat.add_comm]

namespace Uuid

/-- The characters of digits are read as the digits. -/
theorem mapM_digitValue? (digits : List (Fin 16)) :
    (digits.map digitChar).mapM digitValue? = some digits := by
  have digit : ∀ d : Fin 16, digitValue? (digitChar d) = some d := by decide
  induction digits with
  | nil => rfl
  | cons d rest ih => simp [digit d, ih]

/-- Groups of digits with hyphens between them. -/
def hyphenated (a b c d e : List Char) : List Char :=
  a ++ '-' :: (b ++ '-' :: (c ++ '-' :: (d ++ '-' :: e)))

theorem readHyphenated_groups {a b c d e : List Char} (first : a.length = 8) (second : b.length = 4)
    (third : c.length = 4) (fourth : d.length = 4) (fifth : e.length = 12) :
    readHyphenated (hyphenated a b c d e) = readSimple (a ++ b ++ c ++ d ++ e) := by
  have length : (hyphenated a b c d e).length = 36 := by
    simp [hyphenated, first, second, third, fourth, fifth]
  have hyphens : ([8, 13, 18, 23].all fun position =>
      (hyphenated a b c d e)[position]? = some '-') = true := by
    simp [hyphenated, List.getElem?_append, first, second, third, fourth]
  have digits : (hyphenated a b c d e).take 8 ++ ((hyphenated a b c d e).drop 9).take 4 ++
      ((hyphenated a b c d e).drop 14).take 4 ++ ((hyphenated a b c d e).drop 19).take 4 ++
        (hyphenated a b c d e).drop 24 = a ++ b ++ c ++ d ++ e := by
    simp (disch := omega) [hyphenated, List.drop_append, first, second, third,
      fourth, List.drop_of_length_le]
  have sized : (guard ((hyphenated a b c d e).length = 36) : Option Unit) = some () := if_pos length
  have marked : (guard ([8, 13, 18, 23].all fun position =>
      (hyphenated a b c d e)[position]? = some '-') : Option Unit) = some () := if_pos hyphens
  rw [readHyphenated, sized, marked, digits]
  rfl

/-- What holds of the digits and of a hyphen holds of all characters of a text. -/
theorem forall_mem_text {P : Char → Prop} (digit : ∀ d : Fin 16, P (digitChar d)) (hyphen : P '-')
    (u : Uuid) : ∀ c ∈ u.text.toList, P c := by
  have digits : ∀ c ∈ u.digits.map digitChar, P c := List.forall_mem_map.mpr fun d _ => digit d
  have taken (n : Nat) {cs : List Char} (all : ∀ c ∈ cs, P c) : ∀ c ∈ cs.take n, P c :=
    fun c inside => all c (List.mem_of_mem_take inside)
  have dropped (n : Nat) : ∀ c ∈ (u.digits.map digitChar).drop n, P c :=
    fun c inside => digits c (List.mem_of_mem_drop inside)
  have between : ∀ c ∈ ['-'], P c := List.forall_mem_singleton.mpr hyphen
  rw [text, String.toList_ofList]
  simp only [groups, List.intercalate_cons_cons, List.intercalate_singleton,
    List.forall_mem_append, and_assoc]
  exact ⟨taken 8 digits, between, taken 4 (dropped 8), between, taken 4 (dropped 12), between,
    taken 4 (dropped 16), between, dropped 20⟩

/-- The text of a UUID is one of the forms of the UUID. -/
theorem readForm_text (u : Uuid) : readForm u.text.toList = .ok u := by
  let cs := u.digits.map digitChar
  have length : cs.length = 32 := by rw [List.length_map, u.length_digits]
  have text : u.text.toList = hyphenated (cs.take 8) ((cs.drop 8).take 4) ((cs.drop 12).take 4)
      ((cs.drop 16).take 4) (cs.drop 20) := by
    simp [Uuid.text, groups, hyphenated, List.intercalate_cons_cons, cs]
  have whole : cs.take 8 ++ (cs.drop 8).take 4 ++ (cs.drop 12).take 4 ++ (cs.drop 16).take 4 ++
      cs.drop 20 = cs := by
    rw [← List.take_add, ← List.take_add, ← List.take_add, List.take_append_drop]
  have found : readHyphenated u.text.toList = some u := by
    rw [text, readHyphenated_groups (by simp; omega) (by simp; omega) (by simp; omega)
      (by simp; omega) (by simp; omega), whole, readSimple, mapM_digitValue?]
    exact dif_pos u.length_digits
  have bytes : Text.byteLength u.text.toList = 36 := by
    rw [Text.byteLength_eq_length (u.forall_mem_text (by decide) (by decide)), text]
    simp [hyphenated]
    omega
  rw [readForm, hyphenatedPart?, bytes]
  simp only [found]

/-- The text of a UUID is read as the UUID. -/
theorem read_text (u : Uuid) : read u.text = .ok u := by
  have noBlank : ∀ c ∈ u.text.toList, Text.isBlank c = false :=
    u.forall_mem_text (by decide) (by decide)
  rw [read, Text.trim_of_noBlank noBlank]
  exact u.readForm_text

end Uuid

end SqlCompose
