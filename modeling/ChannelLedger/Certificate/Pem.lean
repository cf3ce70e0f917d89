import ChannelLedger.Certificate.Base64

/-!
# PEM

A byte string in a text: base64 lines between a line that begins a block and a line that ends it,
both with the block's label. Text in front of the first block is skipped, and so are blocks of
other labels, although these must be well formed too.

The text is read in lines of at most 254 bytes, so a longer line counts as several. At the end of
a line everything that is not a visible ASCII character is dropped, and a zero byte inside a line
hides the rest of it. A mark of UTF-8 in front of the text, or behind a block, does not count. An
empty line inside a block separates headers from its data; where headers are possible, the data
must stand in lines of 64 characters. The headers of a certificate would say that it is encrypted,
so a certificate with headers is not read.
-/
namespace ChannelLedger.Pem

/-- A line, or a part of a longer line. -/
structure Line where
  /-- Its bytes without what is dropped at the end. -/
  text : Bytes
  /-- A byte of it, dropped or not, is a colon. -/
  hasColon : Bool
  /-- The line goes on in the next one. -/
  isPartial : Bool
  deriving DecidableEq, Repr

/-- The most bytes of a line that are read at once. -/
def maxLine : Nat := 254

/-- The first line of a text as it stands, its line break included. -/
def firstLine (limit : Nat) : Bytes → Bytes
  | [] => []
  | b :: rest =>
    match limit with
    | 0 => []
    | limit + 1 => if b = 0x0a then [b] else b :: firstLine limit rest

/-- Bytes that are dropped at the end of a line. -/
def isTrailing (b : UInt8) : Bool :=
  b ≤ 0x20 || 0x80 ≤ b

/-- The line whose bytes are given as they stand. -/
def Line.ofRaw (raw : Bytes) : Line where
  text := (raw.reverse.dropWhile isTrailing).reverse
  hasColon := raw.contains 0x3a
  isPartial := raw.length == maxLine && raw.getLast? != some 0x0a

/-- Cuts a text into lines; the fuel is the length of the text. -/
def cut : (fuel : Nat) → Bytes → List Line
  | 0, _ => []
  | fuel + 1, text =>
    match firstLine maxLine text with
    | [] => []
    | raw => .ofRaw raw :: cut fuel (text.drop raw.length)

/-- The mark that may stand at the start of a text in UTF-8. -/
def byteOrderMark : Bytes := [0xef, 0xbb, 0xbf]

/-- Lines without the mark at their start. -/
def withoutMark : List Line → List Line
  | [] => []
  | first :: rest =>
    if byteOrderMark.isPrefixOf first.text then
      { first with text := first.text.drop byteOrderMark.length } :: rest
    else first :: rest

/-- The lines of a text, without the mark at its start. -/
def lines (text : Bytes) : List Line :=
  withoutMark (cut text.length text)

/-! ## Blocks -/

def beginMark : Bytes := Bytes.ofText "-----BEGIN "

def endMark : Bytes := Bytes.ofText "-----END "

def tailMark : Bytes := Bytes.ofText "-----"

/-- The part of a line in front of a zero byte. -/
def visible (text : Bytes) : Bytes :=
  text.takeWhile (· != 0)

/-- The label of a line that begins a block. -/
def beginLabel? (line : Line) : Option Bytes :=
  if beginMark.isPrefixOf line.text ∧ tailMark.isSuffixOf line.text then
    let label := line.text.drop beginMark.length
    some (visible (label.take (label.length - tailMark.length)))
  else none

/-- The line ends a block. -/
def isEnd (line : Line) : Bool :=
  endMark.isPrefixOf line.text

/-- Leaves out the empty lines that only end a line of which a part has been read. -/
def withoutBreaks : (previousPartial : Bool) → List Line → List Line
  | _, [] => []
  | previousPartial, line :: rest =>
    if previousPartial ∧ line.text.isEmpty then withoutBreaks line.isPartial rest
    else line :: withoutBreaks line.isPartial rest

/-- The visible text of lines. -/
def join (lines : List Line) : Bytes :=
  lines.flatMap fun line => visible line.text

/-- Data behind an empty line stands in lines of 64 characters; only the last may be shorter. -/
def isShaped (lines : List Line) : Bool :=
  lines.dropLast.all (·.text.length == 64) &&
    lines.all fun line => !line.text.isEmpty && line.text.length ≤ 64

/-- The headers and the base64 text between the first and the last line of a block. A colon in any
line, the last one included, means that headers come first; without an empty line there is then no
data. -/
def contents (lines : List Line) (last : Line) : Option (Bytes × Bytes) :=
  let lines := withoutBreaks false lines
  let front := lines.takeWhile (!·.text.isEmpty)
  match lines.dropWhile (!·.text.isEmpty) with
  | [] => if (front ++ [last]).any (·.hasColon) then none else some ([], join front)
  | _ :: data => if isShaped data then some (join front, join data) else none

/-- The labels of certificates. -/
def certificateLabels : List Bytes :=
  [Bytes.ofText "CERTIFICATE", Bytes.ofText "X509 CERTIFICATE"]

theorem length_withoutMark (lines : List Line) : (withoutMark lines).length = lines.length := by
  cases lines with
  | nil => rfl
  | cons first rest =>
    rw [withoutMark]
    split <;> rfl

/-- The bytes of the first block whose label is that of a certificate. A malformed block in front
of it ends the search. Behind a block the lines are read like a new text. -/
def findCertificate (input : List Line) : Option Bytes :=
  match input with
  | [] => none
  | line :: rest =>
    match beginLabel? line with
    | none => findCertificate rest
    | some label =>
      match _h : rest.dropWhile (!isEnd ·) with
      | [] => none
      | last :: more => do
        if last.text.drop endMark.length ≠ label ++ tailMark then none
        let (headers, text) ← contents (rest.takeWhile (!isEnd ·)) last
        let bytes ← Base64.decode? text
        if bytes.isEmpty then none
        if certificateLabels.contains label then
          if headers.isEmpty then some bytes else none
        else findCertificate (withoutMark more)
  termination_by input.length
  decreasing_by
    · simp
    · have : (rest.dropWhile (!isEnd ·)).length ≤ rest.length := (List.dropWhile_sublist _).length_le
      rw [_h] at this
      simp [length_withoutMark] at this ⊢
      omega

/-- The bytes of the first certificate in a text. -/
def certificate? (text : Bytes) : Option Bytes :=
  findCertificate (lines text)

end ChannelLedger.Pem
