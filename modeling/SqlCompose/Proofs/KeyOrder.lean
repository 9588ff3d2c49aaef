/-
# The order of keys

The fields of an object stand in the order of their keys, each key once.  Keys are texts, and texts
are compared character by character; what stands outside of the program compares them byte by
byte.  In UTF-8 the two orders are one: the first byte of a character tells how many
follow, more bytes are needed for greater characters only, and the bytes of a character count
in base 64 (`Text.bytes_lt_iff`).

A document comes from its text or is put together field by field, and either way a field is
put where its key belongs (`Json.keysOrdered_ofFields`, `Json.keysOrdered_of_document`).
-/

import SqlCompose.Json.Reader
import SqlCompose.Proofs.Refusals
import Mathlib.Data.String.Basic

namespace SqlCompose

/-! ## Texts and their bytes -/

namespace Text

/-- The bytes of a text in UTF-8. -/
def bytes (s : String) : List UInt8 :=
  s.toUTF8.data.toList

theorem bytes_eq (s : String) : bytes s = s.toList.flatMap String.utf8EncodeChar := by
  rw [bytes, String.toUTF8_eq_toByteArray, ← String.utf8Encode_toList, List.utf8Encode]
  simp

theorem div_lt_or_eq {m n : Nat} (less : m < n) (base : Nat) :
    m / base < n / base ∨ m / base = n / base ∧ m % base < n % base := by
  rcases (Nat.div_le_div_right less.le : m / base ≤ n / base).lt_or_eq with high | same
  · exact .inl high
  · have ofM := Nat.div_add_mod m base
    have ofN := Nat.div_add_mod n base
    rw [same] at ofM
    exact .inr ⟨same, by omega⟩

/-- Of two characters the lesser one has the lesser bytes, whatever follows them. -/
theorem utf8EncodeChar_append_lt {c d : Char} (less : c < d) (cs ds : List UInt8) :
    String.utf8EncodeChar c ++ cs < String.utf8EncodeChar d ++ ds := by
  have less : c.val.toNat < d.val.toNat := less
  have bound : d.val.toNat < 0x110000 := by
    have valid : d.val.toNat.isValidChar := d.valid
    unfold Nat.isValidChar at valid
    omega
  unfold String.utf8EncodeChar
  dsimp only
  generalize c.val.toNat = m at less ⊢
  generalize d.val.toNat = n at less bound ⊢
  -- Up to three bytes, and if one character has more of them than the other, the numbers decide.
  split_ifs <;>
    simp only [List.cons_append, List.nil_append, List.cons_lt_cons_iff, UInt8.lt_iff_toNat_lt,
      ← UInt8.toNat_inj, UInt8.toNat_ofNat']
  all_goals try omega
  -- Both have four bytes: the first three digits are the same, or one of them decides.
  rcases div_lt_or_eq less 64 with less | ⟨same, digit⟩
  · rcases div_lt_or_eq less 64 with less | ⟨same, digit⟩
    · rcases div_lt_or_eq less 64 with less | ⟨same, digit⟩ <;> omega
    · omega
  · omega

theorem flatMap_lt {cs ds : List Char} (less : cs < ds) :
    cs.flatMap String.utf8EncodeChar < ds.flatMap String.utf8EncodeChar := by
  induction less with
  | nil =>
      obtain ⟨byte, more, bytes⟩ := List.exists_cons_of_ne_nil String.utf8EncodeChar_ne_nil
      rw [List.flatMap_cons, bytes]
      exact List.nil_lt_cons _ _
  | rel first => exact utf8EncodeChar_append_lt first _ _
  | cons _ ih => exact List.append_left_lt ih

/-- Texts are compared as their bytes are. -/
theorem bytes_lt_iff (s t : String) : bytes s < bytes t ↔ s < t := by
  rw [bytes_eq, bytes_eq, String.lt_iff_toList_lt]
  refine ⟨fun less => ?_, flatMap_lt⟩
  rcases lt_trichotomy s.toList t.toList with before | same | behind
  · exact before
  · exact (List.lt_irrefl _ (same ▸ less)).elim
  · exact (List.lt_asymm less (flatMap_lt behind)).elim

end Text

/-! ## Documents -/

namespace Json

/-- Whether keys stand in the order of their bytes, none of them twice. -/
def InByteOrder (keys : List String) : Prop :=
  keys.Pairwise fun key next => Text.bytes key < Text.bytes next

/-- Whether the fields of a document, if it is an object, stand in the order of their keys. -/
def KeysOrdered : Json → Prop
  | .object fields => InByteOrder (fields.map Prod.fst)
  | _ => True

theorem mem_keys_insert (key : String) (value : Json) (fields : List (String × Json))
    (other : String) :
    other ∈ (insert key value fields).map Prod.fst ↔
      other = key ∨ other ∈ fields.map Prod.fst := by
  induction fields with
  | nil => simp [insert]
  | cons field rest ih =>
      obtain ⟨k, v⟩ := field
      unfold insert
      split
      · simp
      · split
        case isTrue same => simp [same]
        case isFalse =>
          rw [List.map_cons, List.mem_cons, ih, List.map_cons, List.mem_cons]
          exact or_left_comm

/-- A field is put where its key belongs. -/
theorem inByteOrder_insert (key : String) (value : Json) {fields : List (String × Json)}
    (ordered : InByteOrder (fields.map Prod.fst)) :
    InByteOrder ((insert key value fields).map Prod.fst) := by
  unfold InByteOrder at *
  simp only [Text.bytes_lt_iff] at *
  induction fields with
  | nil => exact List.pairwise_singleton _ _
  | cons field rest ih =>
      obtain ⟨k, v⟩ := field
      rw [List.map_cons, List.pairwise_cons] at ordered
      obtain ⟨first, ordered⟩ := ordered
      unfold insert
      split
      case isTrue before =>
        rw [List.map_cons, List.map_cons, List.pairwise_cons, List.pairwise_cons,
          List.forall_mem_cons]
        exact ⟨⟨before, fun other inRest => before.trans (first other inRest)⟩, first, ordered⟩
      case isFalse notBefore =>
        split
        case isTrue same =>
          subst same
          exact List.pairwise_cons.mpr ⟨first, ordered⟩
        case isFalse differ =>
          rw [List.map_cons, List.pairwise_cons]
          refine ⟨fun other inserted => ?_, ih ordered⟩
          rcases (mem_keys_insert key value rest other).mp inserted with rfl | inRest
          · exact lt_of_le_of_ne (not_lt.mp notBefore) (Ne.symm differ)
          · exact first other inRest

/-- Fields that are given in any order are put into the order of their keys. -/
theorem keysOrdered_ofFields (fields : List (String × Json)) : (ofFields fields).KeysOrdered := by
  have kept (sorted : List (String × Json)) (ordered : InByteOrder (sorted.map Prod.fst)) :
      InByteOrder ((fields.foldl (fun sorted field => insert field.1 field.2 sorted) sorted).map
        Prod.fst) := by
    induction fields generalizing sorted with
    | nil => exact ordered
    | cons field rest ih => exact ih _ (inByteOrder_insert field.1 field.2 ordered)
  exact kept [] List.Pairwise.nil

theorem keysOrdered_of_readValue {fuel depth : Nat} {cs rest : List Char} {j : Json}
    (isRead : Reader.readValue fuel depth cs = .ok (j, rest)) : j.KeysOrdered := by
  have ofBind {α : Type} {step : Except Stop α} {content : α → Json} {left : α → List Char}
      (each : ∀ a, (content a).KeysOrdered)
      (isRead : (do let a ← step; pure (content a, left a)) = Except.ok (j, rest)) :
      j.KeysOrdered := by
    obtain ⟨a, -, isRead⟩ := bind_eq_ok_iff.mp isRead
    obtain ⟨rfl, -⟩ := Prod.mk.inj (pure_eq_ok_iff.mp isRead)
    exact each a
  cases fuel with
  | zero => cases isRead
  | succ fuel =>
      unfold Reader.readValue at isRead
      split at isRead
      case h_1 | h_2 | h_3 | h_4 | h_9 =>
        refine ofBind ?_ isRead
        exact fun _ => trivial
      case h_5 | h_6 => cases isRead
      case h_7 =>
        split at isRead
        · cases isRead
        · cases isRead
          trivial
        · refine ofBind ?_ isRead
          exact fun _ => trivial
      case h_8 =>
        split at isRead
        · cases isRead
        · cases isRead
          exact List.Pairwise.nil
        · refine ofBind ?_ isRead
          exact fun fields => keysOrdered_ofFields fields.1

/-- The document that a text holds has its keys in order. -/
theorem keysOrdered_of_document {text : String} {j : Json}
    (isRead : Reader.document text = .ok j) : j.KeysOrdered := by
  cases found : Reader.readDocument text.toList with
  | error stop =>
      rw [Reader.document, found] at isRead
      cases isRead
  | ok document =>
      rw [Reader.document, found] at isRead
      obtain rfl := Except.ok.inj isRead
      obtain ⟨⟨value, rest⟩, readValue, readEnd⟩ := bind_eq_ok_iff.mp found
      dsimp only at readEnd
      split at readEnd
      · obtain rfl := pure_eq_ok_iff.mp readEnd
        exact keysOrdered_of_readValue readValue
      · cases readEnd

end Json

end SqlCompose
