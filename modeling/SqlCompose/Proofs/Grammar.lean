/-
# Reading operators back

A server does not see the tree of an expression but its text, and puts a tree together
again by the precedence of the operators.  This module does the same: it reads a row of
tokens from left to right, keeps what waits for its right operand on a stack, and joins
it when an operator follows that binds no tighter.

Operands are opaque here.  What the reader gives is characterised without it: a tree is
read from a row of tokens exactly if these are its tokens in order and every operand in
it binds tight enough for its place (`read_eq_some_iff`).  So there is at most one way to
read a text, and a writer that leaves out a pair of parentheses is found out by a tree
that is not grouped well.
-/

import SqlCompose.Operator.Basic

namespace SqlCompose.Grammar

/-- An operator between two operands. -/
inductive Operator where
  | arithmetic (op : BinaryOperator)
  | comparison (op : Comparison)
  | connective (op : Connective)
  /-- A step into a document, to its text if `asText` is set. -/
  | arrow (asText : Bool)
  /-- A path into a document, to its text. -/
  | path
  deriving DecidableEq

namespace Operator

/-- How tight an operator binds.  The ranges of `BETWEEN` have the level 5, a sign has 9,
a cast behind its operand 10, and what is closed in itself 11. -/
def level : Operator → Nat
  | .connective .or => 1
  | .connective .and => 2
  | .comparison .is | .comparison .isNot => 3
  | .comparison .eq | .comparison .ne | .comparison .gt | .comparison .gte
  | .comparison .lt | .comparison .lte => 4
  | .comparison .like | .comparison .notLike | .comparison .ilike | .comparison .notILike
  | .comparison .isIn | .comparison .notIn => 5
  | .comparison .contains | .comparison .containedBy | .comparison .overlaps
  | .comparison .regex | .comparison .regexI
  | .arithmetic .concat | .arrow _ | .path => 6
  | .arithmetic .add | .arithmetic .sub => 7
  | .arithmetic .mul | .arithmetic .div | .arithmetic .rem => 8

theorem level_le (op : Operator) : op.level ≤ 8 := by
  rcases op with op | op | op | asText | _
  · cases op <;> decide
  · cases op <;> decide
  · cases op <;> decide
  · simp [level]
  · decide

/-- The SQL text of an operator. -/
def symbol : Operator → String
  | .arithmetic op => op.symbol
  | .comparison op => op.symbol
  | .connective op => op.keyword
  | .arrow asText => if asText then "->>" else "->"
  | .path => "#>>"

end Operator

/-- A token of an expression. -/
inductive Token (α : Type) where
  /-- An operand that is read as a whole. -/
  | atom (a : α)
  | opening
  | closing
  | operator (op : Operator)
  | between (symmetric : Bool)
  /-- The type that an operand is cast to, behind the operand. -/
  | cast (type : String)

/-- An expression of operators, with the parentheses that stand in its text. -/
inductive SyntaxTree (α : Type) where
  | atom (a : α)
  | group (inner : SyntaxTree α)
  | negated (operand : SyntaxTree α)
  | cast (operand : SyntaxTree α) (type : String)
  | operation (left : SyntaxTree α) (op : Operator) (right : SyntaxTree α)
  | range (expr low high : SyntaxTree α) (symmetric : Bool)

variable {α : Type}

namespace SyntaxTree

/-- The sign before a number. -/
abbrev sign : Operator :=
  .arithmetic .sub

/-- The connective between the bounds of a range. -/
abbrev conjunction : Operator :=
  .connective .and

/-- The tokens of a tree from left to right. -/
def tokens : SyntaxTree α → List (Token α)
  | .atom a => [.atom a]
  | .group inner => .opening :: (inner.tokens ++ [.closing])
  | .negated operand => .operator sign :: operand.tokens
  | .cast operand type => operand.tokens ++ [.cast type]
  | .operation left op right => left.tokens ++ .operator op :: right.tokens
  | .range expr low high symmetric =>
    expr.tokens ++ .between symmetric :: (low.tokens ++ .operator conjunction :: high.tokens)

/-- How tight the outermost operator of a tree binds. -/
def level : SyntaxTree α → Nat
  | .atom _ | .group _ => 11
  | .negated _ => 9
  | .cast _ _ => 10
  | .operation _ op _ => op.level
  | .range _ _ _ _ => 5

@[simp]
theorem level_atom (a : α) : (atom a).level = 11 := rfl

@[simp]
theorem level_group (inner : SyntaxTree α) : inner.group.level = 11 := rfl

@[simp]
theorem level_cast (operand : SyntaxTree α) (type : String) : (operand.cast type).level = 10 := rfl

@[simp]
theorem level_operation (left : SyntaxTree α) (op : Operator) (right : SyntaxTree α) :
    (operation left op right).level = op.level := rfl

/-- Every operand binds tighter than the operator it belongs to, or as tight and stands on
its left. -/
def WellGrouped : SyntaxTree α → Prop
  | .atom _ => True
  | .group inner => inner.WellGrouped
  | .negated operand => 9 ≤ operand.level ∧ operand.WellGrouped
  | .cast operand _ => 10 ≤ operand.level ∧ operand.WellGrouped
  | .operation left op right =>
    op.level ≤ left.level ∧ op.level < right.level ∧ left.WellGrouped ∧ right.WellGrouped
  | .range expr low high _ =>
    5 ≤ expr.level ∧ 5 < low.level ∧ 5 < high.level ∧
      expr.WellGrouped ∧ low.WellGrouped ∧ high.WellGrouped

/-- A tree in parentheses where it needs them. -/
def bracketed (needed : Bool) (t : SyntaxTree α) : SyntaxTree α :=
  if needed then .group t else t

@[simp]
theorem wellGrouped_bracketed (needed : Bool) (t : SyntaxTree α) :
    (t.bracketed needed).WellGrouped ↔ t.WellGrouped := by
  cases needed <;> rfl

@[simp]
theorem level_bracketed (needed : Bool) (t : SyntaxTree α) :
    (t.bracketed needed).level = if needed then 11 else t.level := by
  cases needed <;> rfl

end SyntaxTree

/-! ## The reader -/

/-- What waits for an operand on its right. -/
inductive Frame (α : Type) where
  | group
  | sign
  | left (operand : SyntaxTree α) (op : Operator)
  | low (expr : SyntaxTree α) (symmetric : Bool)
  | high (expr low : SyntaxTree α) (symmetric : Bool)

/-- A reader that wants an operand next, or one that has found one. -/
inductive State (α : Type) where
  | wants (stack : List (Frame α))
  | found (stack : List (Frame α)) (operand : SyntaxTree α)

/-- Joins an operand with the frames that bind as tight as asked for.  A range whose upper
bound is still to come cannot be joined. -/
def reduce (tightness : Nat) : List (Frame α) → SyntaxTree α → List (Frame α) × SyntaxTree α
  | .sign :: stack, t =>
    if tightness ≤ 9 then reduce tightness stack (.negated t) else (.sign :: stack, t)
  | .left l op :: stack, t =>
    if tightness ≤ op.level then reduce tightness stack (.operation l op t)
    else (.left l op :: stack, t)
  | .high e l symmetric :: stack, t =>
    if tightness ≤ 5 then reduce tightness stack (.range e l t symmetric)
    else (.high e l symmetric :: stack, t)
  | stack, t => (stack, t)

/-- Puts an operator behind an operand.  Behind the lower bound of a range stands its
connective, or an operator that binds tighter than the range. -/
def place (op : Operator) : List (Frame α) × SyntaxTree α → Option (State α)
  | (.low e symmetric :: stack, t) =>
    if op = SyntaxTree.conjunction then some (.wants (.high e t symmetric :: stack))
    else if op.level ≤ 5 then none
    else some (.wants (.left t op :: .low e symmetric :: stack))
  | (stack, t) => some (.wants (.left t op :: stack))

/-- Begins a range behind an operand. -/
def placeRange (symmetric : Bool) : List (Frame α) × SyntaxTree α → Option (State α)
  | (.low _ _ :: _, _) => none
  | (stack, t) => some (.wants (.low t symmetric :: stack))

/-- Closes the innermost parentheses. -/
def close : List (Frame α) × SyntaxTree α → Option (State α)
  | (.group :: stack, t) => some (.found stack (.group t))
  | _ => none

/-- Reads a token.  No frame binds as tight as a cast, so nothing is joined before one. -/
def step : State α → Token α → Option (State α)
  | .wants stack, .atom a => some (.found stack (.atom a))
  | .wants stack, .opening => some (.wants (.group :: stack))
  | .wants stack, .operator op =>
    if op = SyntaxTree.sign then some (.wants (.sign :: stack)) else none
  | .found stack t, .operator op => place op (reduce op.level stack t)
  | .found stack t, .between symmetric => placeRange symmetric (reduce 5 stack t)
  | .found stack t, .cast type => some (.found stack (.cast t type))
  | .found stack t, .closing => close (reduce 0 stack t)
  | _, _ => none

/-- Reads tokens. -/
def run (s : State α) (tokens : List (Token α)) : Option (State α) :=
  tokens.foldlM step s

/-- The tree of what was read, if nothing is missing. -/
def finish : State α → Option (SyntaxTree α)
  | .found stack t =>
    match reduce 0 stack t with
    | ([], t) => some t
    | _ => none
  | .wants _ => none

/-- Reads an expression. -/
def read (tokens : List (Token α)) : Option (SyntaxTree α) :=
  (run (.wants []) tokens).bind finish

theorem run_append (s : State α) (first second : List (Token α)) :
    run s (first ++ second) = (run s first).bind (run · second) :=
  List.foldlM_append

@[simp]
theorem run_nil (s : State α) : run s [] = some s := rfl

@[simp]
theorem run_cons (s : State α) (token : Token α) (rest : List (Token α)) :
    run s (token :: rest) = (step s token).bind (run · rest) := rfl

/-! ## What is grouped well is read back -/

/-- How tight an operand must bind to stay the operand of a frame. -/
def Frame.Admits : Frame α → Nat → Prop
  | .group, _ => True
  | .sign, n => 9 ≤ n
  | .left _ op, n => op.level < n
  | .low _ _, n | .high _ _ _, n => 5 < n

/-- How tight an operand must bind to stay the operand of the top of a stack. -/
def Admits : List (Frame α) → Nat → Prop
  | [], _ => True
  | frame :: _, n => frame.Admits n

theorem Admits.mono {stack : List (Frame α)} {n m : Nat} (admitted : Admits stack n)
    (le : n ≤ m) : Admits stack m := by
  cases stack with
  | nil => trivial
  | cons frame stack =>
      cases frame <;> simp only [Admits, Frame.Admits] at admitted ⊢ <;> omega

/-- What binds tighter than all operators between operands can stand anywhere. -/
theorem admits_of_lt (stack : List (Frame α)) {n : Nat} (lt : 8 < n) : Admits stack n := by
  cases stack with
  | nil => trivial
  | cons frame stack =>
      cases frame with
      | left l op => exact Nat.lt_of_le_of_lt op.level_le lt
      | group => trivial
      | sign => exact lt
      | low e symmetric | high e l symmetric =>
          simp only [Admits, Frame.Admits]
          omega

theorem reduce_of_admits {stack : List (Frame α)} {n : Nat} (t : SyntaxTree α)
    (admitted : Admits stack n) (le : n ≤ 8) : reduce n stack t = (stack, t) := by
  cases stack with
  | nil => rfl
  | cons frame stack =>
      cases frame <;> simp only [Admits, Frame.Admits] at admitted <;> simp [reduce] <;> omega

theorem place_of_admits {stack : List (Frame α)} {op : Operator} (t : SyntaxTree α)
    (admitted : Admits stack op.level) :
    place op (stack, t) = some (.wants (.left t op :: stack)) := by
  cases stack with
  | nil => rfl
  | cons frame stack =>
      cases frame with
      | low e symmetric =>
          simp only [Admits, Frame.Admits] at admitted
          have noConjunction : op ≠ SyntaxTree.conjunction := by
            rintro rfl
            simp [Operator.level] at admitted
          simp only [place, if_neg noConjunction]
          rw [if_neg (by omega)]
      | _ => rfl

theorem placeRange_of_admits {stack : List (Frame α)} {symmetric : Bool} (t : SyntaxTree α)
    (admitted : Admits stack 5) :
    placeRange symmetric (stack, t) = some (.wants (.low t symmetric :: stack)) := by
  cases stack with
  | nil => rfl
  | cons frame stack =>
      cases frame with
      | low e symmetric => simp [Admits, Frame.Admits] at admitted
      | _ => rfl

/-- Nothing on a stack binds as tight as a cast. -/
theorem reduce_of_lt {n : Nat} (stack : List (Frame α)) (t : SyntaxTree α) (lt : 9 < n) :
    reduce n stack t = (stack, t) := by
  cases stack with
  | nil => rfl
  | cons frame stack =>
      cases frame with
      | left l op =>
          have := op.level_le
          rw [reduce, if_neg (by omega)]
      | sign | high e l symmetric => rw [reduce, if_neg (by omega)]
      | _ => rfl

/-- Reading the tokens of a tree leaves a reader that does whatever it would do if the
tree stood there in one piece. -/
theorem run_tokens (t : SyntaxTree α) (grouped : t.WellGrouped) (stack : List (Frame α))
    (admitted : Admits stack t.level) :
    ∃ stack' t', run (.wants stack) t.tokens = some (.found stack' t') ∧
      ∀ n ≤ t.level, reduce n stack' t' = reduce n stack t := by
  induction t generalizing stack with
  | atom a => exact ⟨stack, .atom a, rfl, fun _ _ => rfl⟩
  | group inner ih =>
      obtain ⟨stack', t', ran, reduces⟩ := ih grouped (.group :: stack) trivial
      have opened : step (.wants stack) .opening = some (.wants (.group :: stack)) := rfl
      have closed : step (.found stack' t') .closing = some (.found stack (.group inner)) := by
        rw [step, reduces 0 (Nat.zero_le _)]
        rfl
      refine ⟨stack, .group inner, ?_, fun _ _ => rfl⟩
      simp [SyntaxTree.tokens, opened, run_append, ran, closed]
  | negated operand ih =>
      obtain ⟨tight, operandGrouped⟩ := grouped
      obtain ⟨stack', t', ran, reduces⟩ := ih operandGrouped (.sign :: stack) tight
      refine ⟨stack', t', by simpa [SyntaxTree.tokens, step] using ran, fun n le => ?_⟩
      simp only [SyntaxTree.level] at le
      rw [reduces n (by omega), reduce, if_pos le]
  | cast operand type ih =>
      obtain ⟨tight, operandGrouped⟩ := grouped
      obtain ⟨stack', t', ran, reduces⟩ := ih operandGrouped stack (admitted.mono tight)
      have unchanged : (stack', t') = (stack, operand) := by
        simpa only [reduce_of_lt _ _ (show 9 < 10 by decide)] using reduces 10 tight
      obtain ⟨rfl, rfl⟩ := Prod.mk.inj unchanged
      refine ⟨stack', .cast t' type, ?_, fun _ _ => rfl⟩
      simp [SyntaxTree.tokens, run_append, ran, step]
  | operation left op right ihLeft ihRight =>
      obtain ⟨leftTight, rightTight, leftGrouped, rightGrouped⟩ := grouped
      obtain ⟨stack₁, t₁, ranLeft, reducesLeft⟩ :=
        ihLeft leftGrouped stack (admitted.mono leftTight)
      obtain ⟨stack₂, t₂, ranRight, reducesRight⟩ :=
        ihRight rightGrouped (.left left op :: stack) rightTight
      have placed : step (.found stack₁ t₁) (.operator op) =
          some (.wants (.left left op :: stack)) := by
        have unchanged : reduce op.level stack left = (stack, left) :=
          reduce_of_admits left admitted op.level_le
        rw [step, reducesLeft op.level leftTight, unchanged, place_of_admits left admitted]
      refine ⟨stack₂, t₂, by simp [SyntaxTree.tokens, run_append, ranLeft, placed, ranRight], ?_⟩
      intro n le
      simp only [SyntaxTree.level] at le
      rw [reducesRight n (by omega), reduce, if_pos le]
  | range expr low high symmetric ihExpr ihLow ihHigh =>
      obtain ⟨exprTight, lowTight, highTight, exprGrouped, lowGrouped, highGrouped⟩ := grouped
      obtain ⟨stack₁, t₁, ranExpr, reducesExpr⟩ :=
        ihExpr exprGrouped stack (admitted.mono exprTight)
      obtain ⟨stack₂, t₂, ranLow, reducesLow⟩ :=
        ihLow lowGrouped (.low expr symmetric :: stack) lowTight
      obtain ⟨stack₃, t₃, ranHigh, reducesHigh⟩ :=
        ihHigh highGrouped (.high expr low symmetric :: stack) highTight
      have begun : step (.found stack₁ t₁) (.between symmetric) =
          some (.wants (.low expr symmetric :: stack)) := by
        have unchanged : reduce 5 stack expr = (stack, expr) :=
          reduce_of_admits expr admitted (by decide)
        rw [step, reducesExpr 5 exprTight, unchanged, placeRange_of_admits expr admitted]
      have continued : step (.found stack₂ t₂) (.operator SyntaxTree.conjunction) =
          some (.wants (.high expr low symmetric :: stack)) := by
        have le : SyntaxTree.conjunction.level ≤ low.level := by
          simp only [Operator.level]
          omega
        rw [step, reducesLow _ le]
        rfl
      refine ⟨stack₃, t₃,
        by simp [SyntaxTree.tokens, run_append, ranExpr, begun, ranLow, continued, ranHigh], ?_⟩
      intro n le
      simp only [SyntaxTree.level] at le
      rw [reducesHigh n (by omega), reduce, if_pos le]

/-- A tree that is grouped well is read back from its tokens. -/
theorem read_tokens {t : SyntaxTree α} (grouped : t.WellGrouped) : read t.tokens = some t := by
  obtain ⟨stack, t', ran, reduces⟩ := run_tokens t grouped [] trivial
  rw [read, ran, Option.bind_some, finish, reduces 0 (Nat.zero_le _)]
  rfl

/-! ## What is read is grouped well -/

namespace Frame

/-- How tight the tree binds that a frame is a part of. -/
def level : Frame α → Nat
  | .group => 11
  | .sign => 9
  | .left _ op => op.level
  | .low _ _ | .high _ _ _ => 5

/-- The tokens that were read into a frame. -/
def tokens : Frame α → List (Token α)
  | .group => [.opening]
  | .sign => [.operator SyntaxTree.sign]
  | .left l op => l.tokens ++ [.operator op]
  | .low e symmetric => e.tokens ++ [.between symmetric]
  | .high e l symmetric =>
    e.tokens ++ .between symmetric :: (l.tokens ++ [.operator SyntaxTree.conjunction])

/-- The operands in a frame are in their place. -/
def WellGrouped : Frame α → Prop
  | .group | .sign => True
  | .left l op => op.level ≤ l.level ∧ l.WellGrouped
  | .low e _ => 5 ≤ e.level ∧ e.WellGrouped
  | .high e l _ => 5 ≤ e.level ∧ 5 < l.level ∧ e.WellGrouped ∧ l.WellGrouped

end Frame

/-- Every frame of a stack is in its place. -/
def Settled : List (Frame α) → Prop
  | [] => True
  | frame :: stack => frame.WellGrouped ∧ Admits stack frame.level ∧ Settled stack

/-- The tokens that were read into a stack. -/
def stackTokens : List (Frame α) → List (Token α)
  | [] => []
  | frame :: stack => stackTokens stack ++ frame.tokens

/-- An operand in its place on a stack that is in order, after the given tokens. -/
structure Fits (tokens : List (Token α)) (stack : List (Frame α)) (t : SyntaxTree α) : Prop where
  settled : Settled stack
  grouped : t.WellGrouped
  admitted : Admits stack t.level
  read : stackTokens stack ++ t.tokens = tokens

/-- What the reader keeps to: everything it has read is in its place. -/
def State.Sound (tokens : List (Token α)) : State α → Prop
  | .wants stack => Settled stack ∧ stackTokens stack = tokens
  | .found stack t => Fits tokens stack t ∧ 10 ≤ t.level

/-- No frame on top of a stack can be joined with an operand that is followed by an
operator of the given tightness. -/
def Stops (tightness : Nat) : List (Frame α) → Prop
  | .sign :: _ => 9 < tightness
  | .left _ op :: _ => op.level < tightness
  | .high _ _ _ :: _ => 5 < tightness
  | _ => True

/-- Joining keeps everything in its place, and goes on until nothing can be joined. -/
theorem fits_reduce {tokens : List (Token α)} {stack : List (Frame α)} {t : SyntaxTree α}
    (fits : Fits tokens stack t) {n : Nat} (le : n ≤ t.level) :
    Fits tokens (reduce n stack t).1 (reduce n stack t).2 ∧
      Stops n (reduce n stack t).1 ∧ n ≤ (reduce n stack t).2.level := by
  induction stack generalizing t with
  | nil => exact ⟨fits, trivial, le⟩
  | cons frame stack ih =>
      obtain ⟨⟨frameGrouped, frameAdmitted, settled⟩, grouped, admitted, read⟩ := id fits
      cases frame with
      | group | low e symmetric => exact ⟨fits, trivial, le⟩
      | sign =>
          rw [reduce]
          split
          case isTrue joins =>
            refine ih ⟨settled, ⟨admitted, grouped⟩, frameAdmitted, ?_⟩ joins
            simpa [stackTokens, Frame.tokens, SyntaxTree.tokens] using read
          case isFalse stops => exact ⟨fits, Nat.not_le.mp stops, le⟩
      | left l op =>
          rw [reduce]
          split
          case isTrue joins =>
            obtain ⟨leftTight, leftGrouped⟩ := frameGrouped
            refine ih ⟨settled, ⟨leftTight, admitted, leftGrouped, grouped⟩,
              frameAdmitted, ?_⟩ joins
            simpa [stackTokens, Frame.tokens, SyntaxTree.tokens] using read
          case isFalse stops => exact ⟨fits, Nat.not_le.mp stops, le⟩
      | high e l symmetric =>
          rw [reduce]
          split
          case isTrue joins =>
            obtain ⟨exprTight, lowTight, exprGrouped, lowGrouped⟩ := frameGrouped
            refine ih ⟨settled, ⟨exprTight, lowTight, admitted, exprGrouped, lowGrouped, grouped⟩,
              frameAdmitted, ?_⟩ joins
            simpa [stackTokens, Frame.tokens, SyntaxTree.tokens] using read
          case isFalse stops => exact ⟨fits, Nat.not_le.mp stops, le⟩

/-- An operator behind an operand that is tight enough to be its left one waits for its
right operand. -/
theorem left_sound {tokens : List (Token α)} {stack : List (Frame α)} {t : SyntaxTree α}
    {op : Operator} (fits : Fits tokens stack t) (admitted : Admits stack op.level)
    (le : op.level ≤ t.level) :
    (State.wants (.left t op :: stack)).Sound (tokens ++ [.operator op]) := by
  refine ⟨⟨⟨le, fits.grouped⟩, admitted, fits.settled⟩, ?_⟩
  simp [stackTokens, Frame.tokens, ← fits.read]

theorem place_sound {tokens : List (Token α)} {stack : List (Frame α)} {t : SyntaxTree α}
    {op : Operator} {s : State α} (fits : Fits tokens stack t) (stops : Stops op.level stack)
    (le : op.level ≤ t.level) (placed : place op (stack, t) = some s) :
    s.Sound (tokens ++ [.operator op]) := by
  cases stack with
  | nil =>
      cases placed
      exact left_sound fits trivial le
  | cons frame stack =>
      cases frame with
      | low e symmetric =>
          obtain ⟨⟨exprTight, exprGrouped⟩, admitted, settled⟩ := fits.settled
          rw [place] at placed
          split at placed
          case isTrue conjunction =>
            cases placed
            subst conjunction
            refine ⟨⟨⟨exprTight, fits.admitted, exprGrouped, fits.grouped⟩, admitted, settled⟩, ?_⟩
            simp [stackTokens, Frame.tokens, ← fits.read]
          case isFalse =>
            split at placed
            case isTrue => cases placed
            case isFalse loose =>
              cases placed
              exact left_sound fits (Nat.not_le.mp loose) le
      | group =>
          cases placed
          exact left_sound fits trivial le
      | sign =>
          have := op.level_le
          simp only [Stops] at stops
          omega
      | left l op' | high e l symmetric =>
          cases placed
          exact left_sound fits stops le

theorem placeRange_sound {tokens : List (Token α)} {stack : List (Frame α)} {t : SyntaxTree α}
    {symmetric : Bool} {s : State α} (fits : Fits tokens stack t) (stops : Stops 5 stack)
    (le : 5 ≤ t.level) (placed : placeRange symmetric (stack, t) = some s) :
    s.Sound (tokens ++ [.between symmetric]) := by
  have waits (admitted : Admits stack 5) :
      (State.wants (.low t symmetric :: stack)).Sound (tokens ++ [.between symmetric]) := by
    refine ⟨⟨⟨le, fits.grouped⟩, admitted, fits.settled⟩, ?_⟩
    simp [stackTokens, Frame.tokens, ← fits.read]
  cases stack with
  | nil =>
      cases placed
      exact waits trivial
  | cons frame stack =>
      cases frame with
      | low e symmetric => cases placed
      | group =>
          cases placed
          exact waits trivial
      | sign => simp [Stops] at stops
      | left l op =>
          cases placed
          exact waits stops
      | high e l symmetric => simp [Stops] at stops

theorem close_sound {tokens : List (Token α)} {stack : List (Frame α)} {t : SyntaxTree α}
    {s : State α} (fits : Fits tokens stack t) (closed : close (stack, t) = some s) :
    s.Sound (tokens ++ [.closing]) := by
  cases stack with
  | nil => cases closed
  | cons frame stack =>
      cases frame with
      | group =>
          cases closed
          obtain ⟨_, admitted, settled⟩ := fits.settled
          refine ⟨⟨settled, fits.grouped, admitted, ?_⟩, by simp⟩
          simp [SyntaxTree.tokens, stackTokens, Frame.tokens, ← fits.read]
      | _ => cases closed

/-- A token is read into its place. -/
theorem step_sound {tokens : List (Token α)} {s s' : State α} {token : Token α}
    (sound : s.Sound tokens) (stepped : step s token = some s') :
    s'.Sound (tokens ++ [token]) := by
  cases s with
  | wants stack =>
      obtain ⟨settled, rfl⟩ := sound
      cases token with
      | atom a =>
          cases stepped
          exact ⟨⟨settled, trivial, admits_of_lt _ (by simp), rfl⟩, by simp⟩
      | opening =>
          cases stepped
          exact ⟨⟨trivial, admits_of_lt _ (by simp [Frame.level]), settled⟩, rfl⟩
      | operator op =>
          rw [step] at stepped
          split at stepped
          case isTrue isSign =>
            cases stepped
            subst isSign
            exact ⟨⟨trivial, admits_of_lt _ (by simp [Frame.level]), settled⟩, rfl⟩
          case isFalse => cases stepped
      | closing | between symmetric | cast type => cases stepped
  | found stack t =>
      obtain ⟨fits, closed⟩ := sound
      cases token with
      | operator op =>
          have := op.level_le
          obtain ⟨reduced, stops, le⟩ := fits_reduce fits (n := op.level) (by omega)
          exact place_sound reduced stops le stepped
      | between symmetric =>
          obtain ⟨reduced, stops, le⟩ := fits_reduce fits (n := 5) (by omega)
          exact placeRange_sound reduced stops le stepped
      | cast type =>
          cases stepped
          refine ⟨⟨fits.settled, ⟨closed, fits.grouped⟩, admits_of_lt _ (by simp), ?_⟩,
            Nat.le_refl 10⟩
          simp [SyntaxTree.tokens, ← fits.read]
      | closing =>
          obtain ⟨reduced, -, -⟩ := fits_reduce fits (Nat.zero_le _)
          exact close_sound reduced stepped
      | atom a | opening => cases stepped

theorem run_sound {tokens more : List (Token α)} {s s' : State α}
    (sound : s.Sound tokens) (ran : run s more = some s') : s'.Sound (tokens ++ more) := by
  induction more generalizing tokens s with
  | nil =>
      cases ran
      simpa using sound
  | cons token rest ih =>
      rw [run_cons, Option.bind_eq_some_iff] at ran
      obtain ⟨next, stepped, ran⟩ := ran
      simpa using ih (step_sound sound stepped) ran

theorem finish_sound {tokens : List (Token α)} {s : State α} {t : SyntaxTree α}
    (sound : s.Sound tokens) (finished : finish s = some t) :
    t.WellGrouped ∧ t.tokens = tokens := by
  cases s with
  | wants stack => cases finished
  | found stack operand =>
      obtain ⟨reduced, -, -⟩ := fits_reduce sound.1 (Nat.zero_le _)
      rw [finish] at finished
      split at finished
      case h_1 t' joined =>
        cases finished
        rw [joined] at reduced
        exact ⟨reduced.grouped, by simpa [stackTokens] using reduced.read⟩
      case h_2 => cases finished

/-- A tree is read from a row of tokens exactly if these are its tokens and it is grouped
well. -/
theorem read_eq_some_iff (tokens : List (Token α)) (t : SyntaxTree α) :
    read tokens = some t ↔ t.WellGrouped ∧ t.tokens = tokens := by
  constructor
  · intro finished
    rw [read, Option.bind_eq_some_iff] at finished
    obtain ⟨s, ran, finished⟩ := finished
    have start : State.Sound [] (.wants ([] : List (Frame α))) := ⟨trivial, rfl⟩
    exact finish_sound (run_sound start ran) finished
  · rintro ⟨grouped, rfl⟩
    exact read_tokens grouped

end SqlCompose.Grammar
