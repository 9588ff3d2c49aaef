/-
# Quoting by doubling

SQL encloses text in quotes and writes a quote that belongs to the text twice.
Single quotes enclose constants, double quotes enclose names.  The main statement
is that the doubled text can be read back: `undouble_double`.
-/

namespace SqlCompose.Text

/-- The text with each occurrence of the quote written twice. -/
def double (quote : Char) : List Char → List Char
  | [] => []
  | c :: cs => if c = quote then quote :: quote :: double quote cs else c :: double quote cs

/-- Reads doubled text up to its end.  A quote that stands alone is refused. -/
def undouble (quote : Char) : List Char → Option (List Char)
  | [] => some []
  | [c] => if c = quote then none else some [c]
  | c :: d :: cs =>
    if c = quote then
      if d = quote then (undouble quote cs).map (quote :: ·) else none
    else (undouble quote (d :: cs)).map (c :: ·)

/-- Doubling loses nothing. -/
theorem undouble_double (quote : Char) (cs : List Char) :
    undouble quote (double quote cs) = some cs := by
  induction cs with
  | nil => rfl
  | cons c cs ih =>
    by_cases h : c = quote
    · simp [double, undouble, h, ih]
    · cases hcs : double quote cs with
      | nil => simp_all [double, undouble]
      | cons d ds => simp_all [double, undouble]

/-- The text between two quotes, its own quotes doubled. -/
def enclose (quote : Char) (text : String) : String :=
  String.ofList (quote :: (double quote text.toList ++ [quote]))

/-- A text constant of SQL. -/
def quoteLiteral (text : String) : String :=
  enclose '\'' text

end SqlCompose.Text
