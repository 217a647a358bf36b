import TextQuery.QuerySet

/-!
# Colors and columns

The terminal styles of the reports and the layout of their columns. Widths count characters.
-/
set_option autoImplicit false

namespace TextQuery.Report

/-- A terminal style: the codes that begin it and end it. -/
structure Style where
  opening : String
  closing : String

namespace Style

def green : Style := ⟨"32", "39"⟩
def red : Style := ⟨"31", "39"⟩
def cyan : Style := ⟨"36", "39"⟩
def bold : Style := ⟨"1", "0"⟩
def dimmed : Style := ⟨"2", "0"⟩

def code (digits : String) : String := "\x1b[" ++ digits ++ "m"

/-- The text in a style. -/
def apply (style : Style) (text : String) : String :=
  code style.opening ++ text ++ code style.closing

end Style

/-- A verdict by its letter, green and bold for a match and red otherwise. -/
def verdictText (verdict : Verdict) (colors : Bool) : String :=
  let letter := verdict.letter.toString
  match colors, verdict with
  | false, _ => letter
  | true, .matched => Style.bold.apply (Style.green.apply letter)
  | true, .unmatched => Style.red.apply letter

/-- The text cut to at most `max` characters, the last three of them dots. -/
def truncate (text : String) (max : Nat) : String :=
  if max < text.length then String.ofList (text.toList.take (max - 3)) ++ "..." else text

def padding (width : Nat) (text : String) : String :=
  String.ofList (List.replicate (width - text.length) ' ')

def padRight (width : Nat) (text : String) : String := text ++ padding width text

def padLeft (width : Nat) (text : String) : String := padding width text ++ text

end TextQuery.Report
