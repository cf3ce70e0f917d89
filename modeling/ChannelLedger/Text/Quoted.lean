import ChannelLedger.Text.Extending
import ChannelLedger.Text.Unprintable

/-!
# Quoted text

Text shown inside quotes so that a reader sees every character of it: the quote in use and the
backslash are escaped, the usual control characters have a letter, and whatever has no visible
form of its own (a control, a lone accent, an unassigned code point) is written as its number in
`\u{...}`. Everything else stands for itself.
-/
namespace ChannelLedger.Quoted

/-- Which quotes are escaped. -/
structure Style where
  /-- An apostrophe is escaped. -/
  apostrophe : Bool
  /-- A double quote is escaped. -/
  doubleQuote : Bool

/-- A text in double quotes. -/
def Style.text : Style := ⟨false, true⟩

/-- One character in apostrophes. -/
def Style.character : Style := ⟨true, false⟩

/-- A file path in double quotes: both quotes are escaped. -/
def Style.path : Style := ⟨true, true⟩

/-- The number of a character in lower-case hexadecimal. -/
def codePoint (c : Char) : List Char :=
  ['\\', 'u', '\x7b'] ++ Nat.toDigits 16 c.toNat ++ ['\x7d']

/-- One character as it stands inside quotes. -/
def escape (style : Style) (c : Char) : List Char :=
  if c = '\x00' then ['\\', '0']
  else if c = '\t' then ['\\', 't']
  else if c = '\r' then ['\\', 'r']
  else if c = '\n' then ['\\', 'n']
  else if c = '\\' then ['\\', '\\']
  else if c = '"' then if style.doubleQuote then ['\\', '"'] else ['"']
  else if c = '\'' then if style.apostrophe then ['\\', '\''] else ['\'']
  else if 0x20 ≤ c.toNat && c.toNat < 0x7f then [c]
  else if CharClass.extending.contains c || CharClass.unprintable.contains c then codePoint c
  else [c]

/-- A text between double quotes. -/
def text (s : String) : String :=
  String.ofList ('"' :: s.toList.flatMap (escape .text) ++ ['"'])

/-- A character between apostrophes. -/
def char (c : Char) : String :=
  String.ofList ('\'' :: escape .character c ++ ['\''])

/-- A path between double quotes. -/
def path (s : String) : String :=
  String.ofList ('"' :: s.toList.flatMap (escape .path) ++ ['"'])

/-- A list of texts, each quoted, between square brackets. -/
def list (items : List String) : String :=
  "[" ++ ", ".intercalate (items.map text) ++ "]"

end ChannelLedger.Quoted
