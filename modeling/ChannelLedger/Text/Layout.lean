/-!
# Lines and columns

Padding and cutting of text by characters, and the lines of a text. A width is a number of
characters, whatever space a terminal gives them.
-/
namespace ChannelLedger.Text

/-- The text again and again. -/
def repeated (n : Nat) (s : String) : String :=
  String.join (List.replicate n s)

def spaces (n : Nat) : String :=
  String.ofList (List.replicate n ' ')

/-- Blanks behind a text up to the width. -/
def padRight (width : Nat) (s : String) : String :=
  s ++ spaces (width - s.length)

/-- Blanks in front of a text up to the width. -/
def padLeft (width : Nat) (s : String) : String :=
  spaces (width - s.length) ++ s

/-- Blanks on both sides up to the width; an odd one goes behind. -/
def center (width : Nat) (s : String) : String :=
  let blanks := width - s.length
  spaces (blanks / 2) ++ s ++ spaces (blanks - blanks / 2)

/-- The first characters of a text. -/
def cut (length : Nat) (s : String) : String :=
  String.ofList (s.toList.take length)

/-- Splits characters at line feeds. A carriage return right in front of a line feed belongs to it,
and what follows the last line feed is a line only if it is not empty. `line` holds the characters
of the line so far, last one first. -/
def splitLines (line : List Char) : List Char → List (List Char)
  | [] => if line.isEmpty then [] else [line.reverse]
  | c :: rest =>
    if c = '\n' then
      (match line with
        | '\r' :: line => line.reverse
        | line => line.reverse) :: splitLines [] rest
    else splitLines (c :: line) rest

/-- The lines of a text. -/
def lines (s : String) : List String :=
  (splitLines [] s.toList).map String.ofList

/-- The lines of a text, each behind the given indentation and with a line feed. -/
def indented (indentation : String) (s : String) : String :=
  String.join ((lines s).map fun line => indentation ++ line ++ "\n")

end ChannelLedger.Text
