/-
# Key words among bare names

A server keeps some words for itself and takes them for the name of a column or a table only in
quotes (`SqlName.keyWords`).  Where a part of a written name stands without quotes it has to be a
plain word that is none of these (`SqlName.IsBareName`), or the star, which is no name.

Every bare part is a plain word, so what decides is the list of words that are never written bare.
It has fewer words than the server keeps.  The bare parts of a name are names for the server exactly
if no part of the name is one of the words that are missing (`Identifier.bare_parts_are_names_iff`).
-/

import SqlCompose.Proofs.QuotedNames

namespace SqlCompose

/-! ## Words of the server -/

namespace SqlName

/-- The key words that a server reserves. -/
def reservedWords : List String :=
  ["all", "analyse", "analyze", "and", "any", "array", "as", "asc", "asymmetric", "both", "case",
   "cast", "check", "collate", "column", "constraint", "create", "current_catalog", "current_date",
   "current_role", "current_time", "current_timestamp", "current_user", "default", "deferrable",
   "desc", "distinct", "do", "else", "end", "except", "false", "fetch", "for", "foreign", "from",
   "grant", "group", "having", "in", "initially", "intersect", "into", "lateral", "leading",
   "limit", "localtime", "localtimestamp", "not", "null", "offset", "on", "only", "or", "order",
   "placing", "primary", "references", "returning", "select", "session_user", "some", "symmetric",
   "system_user", "table", "then", "to", "trailing", "true", "union", "unique", "user", "using",
   "variadic", "when", "where", "window", "with"]

/-- The key words that a server reserves, though they may be the names of functions and types. -/
def functionWords : List String :=
  ["authorization", "binary", "collation", "concurrently", "cross", "current_schema", "freeze",
   "full", "ilike", "inner", "is", "isnull", "join", "left", "like", "natural", "notnull", "outer",
   "overlaps", "right", "similar", "tablesample", "verbose"]

/-- The key words that name no column, table or target of an assignment without quotes. -/
def keyWords : List String :=
  reservedWords ++ functionWords

/-- Whether a word without quotes is a name for the server. -/
structure IsBareName (word : String) : Prop where
  plain : word.toList ∈ bareWords
  free : word ∉ keyWords

/-- The parts of a written name that stand without quotes. -/
def bareParts (text : String) : List String :=
  ((split false text.toList).filter (·.head? != some '"')).map String.ofList

theorem mem_bareParts {text word : String} :
    word ∈ bareParts text ↔ word.toList ∈ split false text.toList ∧ word.toList.head? ≠ some '"' := by
  rw [bareParts, List.mem_map]
  constructor
  · rintro ⟨part, isBare, rfl⟩
    simpa using isBare
  · rintro ⟨isPart, noQuote⟩
    exact ⟨word.toList, by simpa using ⟨isPart, noQuote⟩, String.ofList_toList⟩

theorem isPlain_of_mem_keyWords :
    ∀ word ∈ keyWords, Identifier.isPlain word.toList = true := by
  decide +kernel

end SqlName

/-! ## Words that are written bare -/

namespace Identifier

/-- The only names that are written without quotes are those that are written as they are. -/
theorem head?_quote_ne_iff {name : String} :
    (quote name).toList.head? ≠ some '"' ↔ quote name = name := by
  rcases quote_cases name with ⟨-, written⟩ | ⟨-, written⟩
  · refine iff_of_true ?_ written
    intro begins
    rw [written] at begins
    exact noQuote_of_quote_eq_self written (List.mem_of_mem_head? begins)
  · rw [written]
    refine iff_of_false ?_ (enclose_ne name)
    simp [Text.enclose]

theorem mem_bareParts_quote {name word : String} :
    word ∈ SqlName.bareParts (quote name) ↔ word = name ∧ quote name = name := by
  have whole := split_quote name []
  rw [List.append_nil, SqlName.split, List.modifyHead_cons, List.append_nil] at whole
  rw [SqlName.mem_bareParts, whole, List.mem_singleton, String.toList_inj]
  constructor
  · rintro ⟨rfl, noQuote⟩
    have written := head?_quote_ne_iff.mp noQuote
    exact ⟨written, written⟩
  · rintro ⟨rfl, written⟩
    have noQuote := head?_quote_ne_iff.mpr written
    rw [written] at noQuote
    exact ⟨written.symm, noQuote⟩

theorem quotePart_eq_self_iff {part : String} :
    quotePart part = part ↔ part = "*" ∨ quote part = part := by
  rw [quotePart]
  split
  case isTrue isStar => exact iff_of_true rfl (.inl isStar)
  case isFalse noStar => simp [noStar]

theorem head?_quotePart_ne_iff {part : String} :
    (quotePart part).toList.head? ≠ some '"' ↔ quotePart part = part := by
  rw [quotePart]
  split
  case isTrue isStar =>
    subst isStar
    exact iff_of_true (by simp) rfl
  case isFalse => exact head?_quote_ne_iff

theorem mem_bareParts_quoteQualified {name word : String} :
    word ∈ SqlName.bareParts (quoteQualified name) ↔
      word ∈ dotted name ∧ (word = "*" ∨ quote word = word) := by
  rw [SqlName.mem_bareParts, quoteQualified, split_intercalate (dotted_ne_nil name), List.mem_map,
    ← quotePart_eq_self_iff]
  constructor
  · rintro ⟨⟨part, isPart, same⟩, noQuote⟩
    rw [← same, head?_quotePart_ne_iff] at noQuote
    rw [String.toList_inj, noQuote] at same
    subst same
    exact ⟨isPart, noQuote⟩
  · rintro ⟨isPart, written⟩
    have noQuote := head?_quotePart_ne_iff.mpr written
    rw [written] at noQuote
    exact ⟨⟨word, isPart, congrArg String.toList written⟩, noQuote⟩

/-- A word is a name for the server whenever it is written bare, exactly if it is no key word or one
that is never written bare. -/
theorem isBareName_iff (word : String) :
    (quote word = word → SqlName.IsBareName word) ↔
      (word ∈ SqlName.keyWords → word ∈ reserved) := by
  constructor
  · intro accepted isKeyWord
    by_contra notReserved
    have plain := isPlain_iff.mp (SqlName.isPlain_of_mem_keyWords word isKeyWord)
    exact (accepted (quote_eq_self_iff.mpr ⟨plain, notReserved⟩)).free isKeyWord
  · intro known written
    obtain ⟨plain, notReserved⟩ := quote_eq_self_iff.mp written
    exact ⟨plain, fun isKeyWord => notReserved (known isKeyWord)⟩

/-- The key words that are written bare. -/
example : SqlName.keyWords.filter (!reserved.contains ·) =
    ["analyse", "analyze", "array", "asymmetric", "both", "cast", "collate", "constraint", "create",
     "current_catalog", "current_date", "current_role", "current_time", "current_timestamp",
     "current_user", "deferrable", "do", "except", "fetch", "for", "foreign", "grant", "having",
     "initially", "intersect", "into", "lateral", "leading", "localtime", "localtimestamp", "only",
     "placing", "returning", "session_user", "some", "symmetric", "system_user", "to", "trailing",
     "union", "unique", "using", "variadic", "with", "authorization", "binary", "collation",
     "concurrently", "cross", "current_schema", "freeze", "full", "ilike", "inner", "isnull",
     "join", "left", "like", "natural", "notnull", "outer", "overlaps", "right", "similar",
     "tablesample", "verbose"] := by
  decide +kernel

/-- What stands without quotes in a written name is a name for the server, or the star, exactly if
each key word among the parts of the name is one of those that are never written bare.  A name that
is written as one has no other part than itself, and is never a bare star. -/
theorem bare_parts_are_names_iff (name : String) :
    ((∀ word ∈ SqlName.bareParts (quote name), SqlName.IsBareName word) ↔
      (name ∈ SqlName.keyWords → name ∈ reserved)) ∧
    ((∀ word ∈ SqlName.bareParts (quoteQualified name), word = "*" ∨ SqlName.IsBareName word) ↔
      ∀ part ∈ dotted name, part ∈ SqlName.keyWords → part ∈ reserved) := by
  simp only [mem_bareParts_quote, mem_bareParts_quoteQualified, ← isBareName_iff]
  constructor
  · constructor
    · exact fun accepted written => accepted name ⟨rfl, written⟩
    · rintro accepted word ⟨rfl, written⟩
      exact accepted written
  · constructor
    · intro accepted part isPart written
      refine (accepted part ⟨isPart, .inr written⟩).resolve_left ?_
      rintro rfl
      revert written
      decide
    · rintro accepted word ⟨isPart, isStar | written⟩
      · exact .inl isStar
      · exact .inr (accepted word isPart written)

/-- A column is assigned by a bare key word, while another one is compared by a key word in
quotes. -/
theorem to_is_written_bare :
    (¬∀ word ∈ SqlName.bareParts (quote "to"), SqlName.IsBareName word) ∧
      (¬∀ word ∈ SqlName.bareParts (quoteQualified "to"), word = "*" ∨ SqlName.IsBareName word) ∧
      (Statement.update [("to", .text "bob")] ⟨[("from", .equals (.text "ann"))]⟩).compile
          ⟨"messages", [⟨"from", .text⟩, ⟨"to", .text⟩]⟩ =
        .ok ⟨"UPDATE messages SET to = $1 WHERE \"from\" = $2", [.text "bob", .text "ann"]⟩ := by
  have isKeyWord : "to" ∈ SqlName.keyWords := by decide +kernel
  have written : quote "to" = "to" := by decide +kernel
  refine ⟨fun accepted => ?_, fun accepted => ?_, rfl⟩
  · exact (accepted "to" (mem_bareParts_quote.mpr ⟨rfl, written⟩)).free isKeyWord
  · have single : dotted "to" = ["to"] := rfl
    have isPart := mem_bareParts_quoteQualified.mpr
      ⟨single ▸ List.mem_singleton_self "to", .inr written⟩
    exact ((accepted "to" isPart).resolve_left (by decide)).free isKeyWord

end Identifier

end SqlCompose
