/-
# Chains of arrows read back

A path into a document is written as a chain: an arrow, the step to which it leads, the next
arrow, and so on, with nothing between them.  So a chain has to tell by itself where a step ends.
A key is a quoted text and ends at the first quote that is not doubled; an index is a numeral and
ends before the first character that is no digit.  What follows is an arrow or nothing, and an
arrow begins with neither a quote nor a digit.

`ArrowChain.read?` reads a chain in this way, without knowing what was written.  It finds the steps
of the path again, keys of any content included, and it finds out which arrows lead to a text
(`JsonPath.arrows_read_back`).
-/

import SqlCompose.Expr.Writing
import SqlCompose.Proofs.PathGrammar

namespace SqlCompose

open Decimal (Numeral.Denotes Numeral.ofInt Numeral.text Numeral.readInt64? Numeral.denotes_ofInt
  Numeral.readInt64?_eq_some_iff)

namespace Text

/-- A quoted text behind its first quote, its doubled quotes undone, and what is left behind the
quote that ends it. -/
def readQuoted? : List Char → Option (List Char × List Char)
  | [] => none
  | '\'' :: '\'' :: cs => (readQuoted? cs).map fun (text, rest) => ('\'' :: text, rest)
  | '\'' :: rest => some ([], rest)
  | c :: cs => (readQuoted? cs).map fun (text, rest) => (c :: text, rest)

theorem length_readQuoted?_lt {cs text rest : List Char}
    (found : readQuoted? cs = some (text, rest)) : rest.length < cs.length := by
  fun_induction readQuoted? cs generalizing text with
  | case1 => cases found
  | case2 cs ih =>
      obtain ⟨⟨text', rest'⟩, isFound, same⟩ := Option.map_eq_some_iff.mp found
      obtain ⟨-, rfl⟩ := Prod.mk.inj same
      have shorter := ih isFound
      simp only [List.length_cons]
      omega
  | case3 =>
      obtain ⟨-, rfl⟩ := Prod.mk.inj (Option.some.inj found)
      simp
  | case4 c cs _ _ ih =>
      obtain ⟨⟨text', rest'⟩, isFound, same⟩ := Option.map_eq_some_iff.mp found
      obtain ⟨-, rfl⟩ := Prod.mk.inj same
      have shorter := ih isFound
      simp only [List.length_cons]
      omega

/-- Whatever stands in a quoted text, its end is found, unless a further quote follows. -/
theorem readQuoted?_double (cs : List Char) {rest : List Char}
    (ends : ∀ c ∈ rest.head?, c ≠ '\'') :
    readQuoted? (double '\'' cs ++ '\'' :: rest) = some (cs, rest) := by
  induction cs with
  | nil =>
      cases rest with
      | nil => rfl
      | cons c rest =>
          have noQuote : c ≠ '\'' := ends c rfl
          simp [double, readQuoted?, noQuote]
  | cons c cs ih =>
      by_cases isQuote : c = '\''
      · subst isQuote
        simp [double, readQuoted?, ih]
      · simp [double, readQuoted?, isQuote, ih]

end Text

namespace ArrowChain

/-- An arrow into a document. -/
inductive Arrow where
  /-- To a part of the document. -/
  | part
  /-- To the text of a part. -/
  | text
  deriving DecidableEq

/-- The SQL text of an arrow. -/
def Arrow.symbol : Arrow → String
  | .part => "->"
  | .text => "->>"

/-- An arrow and the step to which it leads. -/
structure Step where
  arrow : Arrow
  segment : PathSegment
  deriving DecidableEq

/-- The SQL text of a step behind its arrow. -/
def Step.text (step : Step) : String :=
  step.arrow.symbol ++ step.segment.literal

/-- An arrow at the front of a text, and the text behind it. -/
def readArrow? : List Char → Option (Arrow × List Char)
  | '-' :: '>' :: '>' :: rest => some (.text, rest)
  | '-' :: '>' :: rest => some (.part, rest)
  | _ => none

/-- An index at the front of a text, a sign or none and digits, and the text behind it. -/
def readIndex? (cs : List Char) : Option (Int64 × List Char) :=
  let (sign, cs) := JsonPath.splitSign cs
  (Numeral.readInt64? (sign ++ cs.takeWhile Char.isDigit)).map fun i =>
    (i, cs.dropWhile Char.isDigit)

/-- A step at the front of a text, a key in quotes or an index, and the text behind it. -/
def readSegment? : List Char → Option (PathSegment × List Char)
  | '\'' :: cs => (Text.readQuoted? cs).map fun (name, rest) => (.key (String.ofList name), rest)
  | cs => (readIndex? cs).map fun (i, rest) => (.index i, rest)

/-- An arrow with its step at the front of a text, and the text behind them. -/
def readStep? (cs : List Char) : Option (Step × List Char) := do
  let (arrow, behindArrow) ← readArrow? cs
  let (segment, rest) ← readSegment? behindArrow
  return (⟨arrow, segment⟩, rest)

theorem length_readArrow?_lt {cs rest : List Char} {arrow : Arrow}
    (found : readArrow? cs = some (arrow, rest)) : rest.length < cs.length := by
  unfold readArrow? at found
  split at found
  case h_1 | h_2 =>
    cases found
    simp only [List.length_cons]
    omega
  case h_3 => cases found

theorem length_readIndex?_le {cs rest : List Char} {i : Int64}
    (found : readIndex? cs = some (i, rest)) : rest.length ≤ cs.length := by
  obtain ⟨_, -, same⟩ := Option.map_eq_some_iff.mp found
  have left : (JsonPath.splitSign cs).2.dropWhile Char.isDigit = rest := (Prod.mk.inj same).2
  have shorter := (List.dropWhile_sublist (l := (JsonPath.splitSign cs).2) Char.isDigit).length_le
  have whole := congrArg List.length (JsonPath.splitSign_append cs)
  rw [List.length_append] at whole
  rw [left] at shorter
  omega

theorem length_readSegment?_le {cs rest : List Char} {segment : PathSegment}
    (found : readSegment? cs = some (segment, rest)) : rest.length ≤ cs.length := by
  unfold readSegment? at found
  split at found
  case h_1 =>
    obtain ⟨⟨name, left⟩, isFound, same⟩ := Option.map_eq_some_iff.mp found
    obtain ⟨-, rfl⟩ := Prod.mk.inj same
    have shorter := Text.length_readQuoted?_lt isFound
    simp only [List.length_cons]
    omega
  case h_2 =>
    obtain ⟨⟨i, left⟩, isFound, same⟩ := Option.map_eq_some_iff.mp found
    obtain ⟨-, rfl⟩ := Prod.mk.inj same
    exact length_readIndex?_le isFound

theorem length_readStep?_lt {cs rest : List Char} {step : Step}
    (found : readStep? cs = some (step, rest)) : rest.length < cs.length := by
  obtain ⟨⟨arrow, behindArrow⟩, foundArrow, found⟩ := Option.bind_eq_some_iff.mp found
  obtain ⟨⟨segment, left⟩, foundSegment, found⟩ := Option.bind_eq_some_iff.mp found
  obtain ⟨-, rfl⟩ := Prod.mk.inj (Option.some.inj found)
  exact (length_readSegment?_le foundSegment).trans_lt (length_readArrow?_lt foundArrow)

/-- Reads a chain of arrows to its end. -/
def read? (cs : List Char) : Option (List Step) :=
  if cs = [] then some []
  else
    match _ : readStep? cs with
    | some (step, rest) => (read? rest).map (step :: ·)
    | none => none
termination_by cs.length
decreasing_by exact length_readStep?_lt ‹_›

theorem read?_nil : read? [] = some [] := by
  rw [read?]
  simp

theorem read?_of_readStep? {cs rest : List Char} {step : Step}
    (found : readStep? cs = some (step, rest)) : read? cs = (read? rest).map (step :: ·) := by
  have filled : cs ≠ [] := by
    rintro rfl
    cases found
  rw [read?, if_neg filled]
  split
  case h_1 isFound =>
    obtain ⟨rfl, rfl⟩ := Prod.mk.inj (Option.some.inj (isFound.symm.trans found))
    rfl
  case h_2 noStep =>
    rw [noStep] at found
    cases found

/-! ## What is written is read -/

theorem readIndex?_append {word rest : List Char} {i : Int64} (denotes : Numeral.Denotes word i)
    (ends : ∀ c ∈ rest.head?, c.isDigit = false) : readIndex? (word ++ rest) = some (i, rest) := by
  have read := (Numeral.readInt64?_eq_some_iff denotes.plus_notMem).mpr denotes
  have run {digits : List Char} (isDigit : ∀ c ∈ digits, c.isDigit = true) :=
    Decimal.Numeral.takeWhile_digits_append isDigit ends
  cases denotes with
  | plain filled isDigit value =>
      simp only [readIndex?, JsonPath.splitSign_digits filled isDigit, run isDigit, List.nil_append,
        read, Option.map_some]
  | minus filled isDigit value =>
      simp only [readIndex?, List.cons_append, JsonPath.splitSign, run isDigit, List.nil_append,
        read, Option.map_some]

/-- Whether a text is at its end or goes on with an arrow. -/
def Ends (rest : List Char) : Prop :=
  ∀ c ∈ rest.head?, c = '-'

/-- The operand of an arrow begins with a quote, a sign or a digit. -/
theorem exists_cons_literal (s : PathSegment) :
    ∃ c cs, s.literal.toList = c :: cs ∧ c ≠ '>' := by
  cases s with
  | key name =>
      refine ⟨'\'', Text.double '\'' name.toList ++ ['\''], ?_, by decide⟩
      rw [PathSegment.literal, Text.quoteLiteral, Text.enclose, String.toList_ofList]
  | index i =>
      obtain ⟨c, cs, isCons, isFirst⟩ := (Numeral.denotes_ofInt i).exists_cons
      refine ⟨c, cs, ?_, ?_⟩
      · rw [PathSegment.literal, Numeral.text, String.toList_ofList, isCons]
      · rintro rfl
        exact absurd isFirst (by decide)

theorem readSegment?_literal (s : PathSegment) {rest : List Char} (ends : Ends rest) :
    readSegment? (s.literal.toList ++ rest) = some (s, rest) := by
  cases s with
  | key name =>
      have noQuote : ∀ c ∈ rest.head?, c ≠ '\'' := by
        intro c begins
        rw [ends c begins]
        decide
      have read := Text.readQuoted?_double name.toList noQuote
      simp [PathSegment.literal, Text.quoteLiteral, Text.enclose, readSegment?, read]
  | index i =>
      have noDigit : ∀ c ∈ rest.head?, c.isDigit = false := by
        intro c begins
        rw [ends c begins]
        decide
      have denotes := Numeral.denotes_ofInt i
      have read := readIndex?_append denotes noDigit
      rw [PathSegment.literal, Numeral.text, String.toList_ofList]
      unfold readSegment?
      split
      case h_1 cs begins =>
        obtain ⟨c, digits, isCons, isFirst⟩ := denotes.exists_cons
        rw [isCons] at begins
        obtain ⟨rfl, -⟩ := List.cons.inj begins
        exact absurd isFirst (by decide)
      case h_2 => rw [read, Option.map_some]

theorem readStep?_text (step : Step) {rest : List Char} (ends : Ends rest) :
    readStep? (step.text.toList ++ rest) = some (step, rest) := by
  obtain ⟨arrow, segment⟩ := step
  obtain ⟨c, cs, isCons, noArrow⟩ := exists_cons_literal segment
  have foundArrow : readArrow? (arrow.symbol.toList ++ (segment.literal.toList ++ rest)) =
      some (arrow, segment.literal.toList ++ rest) := by
    rw [isCons]
    cases arrow with
    | part => simp [Arrow.symbol, readArrow?, noArrow]
    | text => simp [Arrow.symbol, readArrow?]
  have foundSegment := readSegment?_literal segment ends
  rw [Step.text, String.toList_append, List.append_assoc]
  simp only [readStep?, foundArrow, foundSegment, Option.bind_eq_bind, Option.bind_some]
  rfl

/-- Every chain of arrows is read back step by step. -/
theorem read?_texts (steps : List Step) :
    read? (steps.flatMap fun step => step.text.toList) = some steps := by
  induction steps with
  | nil => exact read?_nil
  | cons step rest ih =>
      have ends : Ends (rest.flatMap fun step => step.text.toList) := by
        cases rest with
        | nil => simp [Ends]
        | cons next rest => cases h : next.arrow <;> simp [Ends, Step.text, Arrow.symbol, h]
      rw [List.flatMap_cons, read?_of_readStep? (readStep?_text step ends), ih, Option.map_some]

end ArrowChain

namespace JsonPath

open ArrowChain (Step)

/-- The steps of a path with their arrows: the last one to a text if `asText` is set, and all others
to parts. -/
def chain (asText : Bool) : List PathSegment → List Step
  | [] => []
  | [last] => [⟨if asText then .text else .part, last⟩]
  | segment :: rest => ⟨.part, segment⟩ :: chain asText rest

theorem toList_arrows (asText : Bool) (segments : List PathSegment) :
    (arrows asText segments).toList =
      (chain asText segments).flatMap fun step => step.text.toList := by
  fun_induction arrows asText segments with
  | case1 => rfl
  | case2 last => cases asText <;> simp [chain, Step.text, ArrowChain.Arrow.symbol]
  | case3 segment rest filled ih =>
      rw [chain]
      · simp [ih, Step.text, ArrowChain.Arrow.symbol]
      · exact filled

theorem map_segment_chain (asText : Bool) (segments : List PathSegment) :
    (chain asText segments).map Step.segment = segments := by
  fun_induction chain asText segments with
  | case1 | case2 => rfl
  | case3 segment rest filled ih => rw [List.map_cons, ih]

theorem length_chain (asText : Bool) (segments : List PathSegment) :
    (chain asText segments).length = segments.length := by
  rw [← List.length_map (f := Step.segment), map_segment_chain]

/-- Only the last arrow can lead to a text. -/
theorem arrow_chain_iff (asText : Bool) (segments : List PathSegment) {i : Nat}
    (inRange : i < (chain asText segments).length) :
    (chain asText segments)[i].arrow = .text ↔
      asText = true ∧ i + 1 = (chain asText segments).length := by
  fun_induction chain asText segments generalizing i with
  | case1 => cases inRange
  | case2 last =>
      obtain rfl : i = 0 := by simpa using inRange
      cases asText <;> simp
  | case3 segment rest filled ih =>
      cases i with
      | zero => simpa [length_chain] using fun _ => filled
      | succ i => simpa using ih (by simpa using inRange)

/-- A chain with steps tells where it leads to. -/
theorem chain_injective {asText otherAsText : Bool} {segments others : List PathSegment}
    (steps : segments ≠ []) (same : chain asText segments = chain otherAsText others) :
    segments = others ∧ asText = otherAsText := by
  have segmentsSame : segments = others := by
    rw [← map_segment_chain asText segments, same, map_segment_chain]
  refine ⟨segmentsSame, ?_⟩
  have filled : 0 < segments.length := List.length_pos_iff.mpr steps
  have last : segments.length - 1 < (chain asText segments).length := by
    rw [length_chain]
    omega
  have leads := arrow_chain_iff asText segments last
  have leadsToo := arrow_chain_iff otherAsText others (same ▸ last)
  simp only [← same, length_chain, Nat.sub_add_cancel filled, and_true] at leads leadsToo
  exact Bool.eq_iff_iff.mpr (leads.symm.trans leadsToo)

/-! ## Behind a document -/

theorem access_of_isRoot {path : JsonPath} (isRoot : path.isRoot = true) (asText : Bool) :
    path.access asText = if asText then " #>> '\x7b\x7d'" else "" := by
  rw [access, if_pos isRoot]

/-- The steps of a path are found again behind a document, and so is which arrow leads to a text. -/
theorem read?_access {path : JsonPath} (steps : path.isRoot = false) (asText : Bool) :
    ArrowChain.read? (path.access asText).toList = some (chain asText path.segments) := by
  rw [access, if_neg (by simp [steps]), toList_arrows, ArrowChain.read?_texts]

/-- What is written for a document itself is no chain with steps. -/
theorem read?_access_of_isRoot {path : JsonPath} (isRoot : path.isRoot = true) (asText : Bool)
    {steps : List Step} (read : ArrowChain.read? (path.access asText).toList = some steps) :
    steps = [] := by
  rw [access_of_isRoot isRoot] at read
  cases asText with
  | false => exact (Option.some.inj (read.symm.trans ArrowChain.read?_nil))
  | true =>
      have noStep : ArrowChain.readStep? " #>> '\x7b\x7d'".toList = none := rfl
      rw [if_pos rfl, ArrowChain.read?, if_neg (by decide), noStep] at read
      cases read

/-- No two paths are written in the same way. -/
theorem access_injective {path other : JsonPath} {asText otherAsText : Bool}
    (same : path.access asText = other.access otherAsText) :
    path = other ∧ asText = otherAsText := by
  -- A path with steps is not written as the document itself.
  have apart {path other : JsonPath} {asText otherAsText : Bool} (isRoot : path.isRoot = true)
      (steps : other.isRoot = false) : path.access asText ≠ other.access otherAsText := by
    intro same
    have read := read?_access steps otherAsText
    rw [← same] at read
    have noSteps := congrArg List.length (read?_access_of_isRoot isRoot asText read)
    rw [length_chain, List.length_nil, List.length_eq_zero_iff] at noSteps
    simp [JsonPath.isRoot, noSteps] at steps
  cases isRoot : path.isRoot with
  | true =>
      cases otherIsRoot : other.isRoot with
      | false => exact absurd same (apart isRoot otherIsRoot)
      | true =>
          rw [access_of_isRoot isRoot, access_of_isRoot otherIsRoot] at same
          have segments : path.segments = other.segments :=
            (List.isEmpty_iff.mp isRoot).trans (List.isEmpty_iff.mp otherIsRoot).symm
          refine ⟨congrArg JsonPath.mk segments, ?_⟩
          revert same
          revert asText otherAsText
          decide
  | false =>
      cases otherIsRoot : other.isRoot with
      | true => exact absurd same.symm (apart otherIsRoot isRoot)
      | false =>
          have read := read?_access isRoot asText
          rw [same, read?_access otherIsRoot] at read
          have steps : path.segments ≠ [] := by simpa [JsonPath.isRoot] using isRoot
          obtain ⟨segments, flag⟩ := chain_injective steps (Option.some.inj read).symm
          exact ⟨congrArg JsonPath.mk segments, flag⟩

/-- What is written behind a document leads where the path leads.  For the document itself it is
nothing, or the operator that gives its text.  For any other path it is read as a chain of arrows
with the steps of the path in their order, whatever is in the keys, and only the last arrow leads
to a text, if a text was asked for.  So two paths are never written in the same way behind the same
document, and neither are a part and its text. -/
theorem arrows_read_back (base : Expr) (path : JsonPath) (asText : Bool) :
    (∀ {σ : Type} (w : ValueWriter σ) (kept : σ),
        ((Expr.jsonAccess base path asText).write w kept).1 =
          Expr.bracketed base.isInfix (base.write w kept).1 ++ path.access asText) ∧
      (path.isRoot = true → path.access asText = if asText then " #>> '\x7b\x7d'" else "") ∧
      (path.isRoot = false → ∃ steps,
        ArrowChain.read? (path.access asText).toList = some steps ∧
          steps.map Step.segment = path.segments ∧
          ∀ i (inRange : i < steps.length),
            steps[i].arrow = .text ↔ asText = true ∧ i + 1 = steps.length) ∧
      ∀ (other : JsonPath) (otherAsText : Bool) {σ : Type} (w : ValueWriter σ) (kept : σ),
        ((Expr.jsonAccess base path asText).write w kept).1 =
            ((Expr.jsonAccess base other otherAsText).write w kept).1 →
          path = other ∧ asText = otherAsText := by
  have written (path : JsonPath) (asText : Bool) {σ : Type} (w : ValueWriter σ) (kept : σ) :
      ((Expr.jsonAccess base path asText).write w kept).1 =
        Expr.bracketed base.isInfix (base.write w kept).1 ++ path.access asText := by
    rw [Expr.write]
    rfl
  refine ⟨written path asText, fun isRoot => access_of_isRoot isRoot asText, ?_, ?_⟩
  · intro steps
    exact ⟨_, read?_access steps asText, map_segment_chain asText path.segments,
      fun i inRange => arrow_chain_iff asText path.segments inRange⟩
  · intro other otherAsText σ w kept same
    rw [written, written, String.append_right_inj] at same
    exact access_injective same

/-- Keys that look like arrows, like indexes or like nothing are read as the keys they are. -/
theorem arrow_in_key_read_back :
    let path : JsonPath := ⟨[.key "it's->>0", .index (-5), .key "7", .key ""]⟩
    path.access true = "->'it''s->>0'->-5->'7'->>''" ∧
      (∃ steps, ArrowChain.read? (path.access true).toList = some steps ∧
        steps.map Step.segment = [.key "it's->>0", .index (-5), .key "7", .key ""]) ∧
      (Expr.jsonAccess (.column "profile") path true).sql ≠
        (Expr.jsonAccess (.column "profile") ⟨[.key "it's->>0", .index (-5), .index 7, .key ""]⟩
          true).sql := by
  intro path
  obtain ⟨-, -, read, injective⟩ := arrows_read_back (.column "profile") path true
  obtain ⟨steps, found, segments, -⟩ := read rfl
  refine ⟨by decide, ⟨steps, found, segments⟩, fun same => ?_⟩
  obtain ⟨paths, -⟩ := injective _ true ValueWriter.constants () same
  exact absurd paths (by decide)

end JsonPath

end SqlCompose
