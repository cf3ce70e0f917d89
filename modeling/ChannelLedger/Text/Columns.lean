import ChannelLedger.Text.Extending
import ChannelLedger.Text.Wide
import ChannelLedger.Text.ZeroWidth

/-!
# Text on a grid of columns

On a terminal a character takes no column, one or two, and some characters are drawn as one with
the character in front of them. A text is therefore laid out by its clusters, the groups of
characters that are drawn as one: it is cut in front of the first cluster that does not fit whole,
and filled up behind the last one.
-/
namespace ChannelLedger.Columns

/-- The vowels and final consonants that join a syllable of Korean letters. -/
def joiningLetters : CharClass :=
  [(0x1160, 0x11ff), (0xd7b0, 0xd7c6), (0xd7cb, 0xd7fb)]

/-- The columns of a character on its own. -/
def ofChar (c : Char) : Nat :=
  if CharClass.zeroWidth.contains c then 0
  else if CharClass.wide.contains c then 2
  else 1

/-! ## Clusters -/

/-- The character that asks for the picture of the character in front of it. -/
def pictureMark : Char := '\ufe0f'

/-- The character that joins two pictures. -/
def joiner : Char := '\u200d'

/-- Letters of which two make a flag. -/
def isFlagLetter (c : Char) : Bool :=
  0x1f1e6 ≤ c.toNat && c.toNat ≤ 0x1f1ff

/-- Shades for the picture in front. -/
def isShade (c : Char) : Bool :=
  0x1f3fb ≤ c.toNat && c.toNat ≤ 0x1f3ff

/-- Characters that have a picture. -/
def isPicture (c : Char) : Bool :=
  c.toNat = 0x23 || c.toNat = 0x2a || (0x30 ≤ c.toNat && c.toNat ≤ 0x39) || c.toNat = 0xa9
    || c.toNat = 0xae || (0x203c ≤ c.toNat && c.toNat ≤ 0x3299) || 0x1f000 ≤ c.toNat

def isControl (c : Char) : Bool :=
  c.toNat < 0x20 || (0x7f ≤ c.toNat && c.toNat < 0xa0)

/-- Whether a character joins the cluster in front of it, whose characters are given last one
first. -/
def joins (cluster : List Char) (c : Char) : Bool :=
  match cluster with
  | [] => false
  | last :: _ =>
    if isControl last || isControl c then last = '\r' && c = '\n'
    else CharClass.extending.contains c || c = joiner || isShade c || joiningLetters.contains c
      || (last = joiner && isPicture c)
      || (isFlagLetter c && (cluster.takeWhile isFlagLetter).length % 2 = 1)

/-- The clusters of a text; `cluster` holds the characters of the first one so far, last one
first. -/
def split (cluster : List Char) : List Char → List (List Char)
  | [] => if cluster.isEmpty then [] else [cluster.reverse]
  | c :: rest =>
    if joins cluster c then split (c :: cluster) rest
    else if cluster.isEmpty then split [c] rest
    else cluster.reverse :: split [c] rest

def clusters (s : String) : List (List Char) :=
  split [] s.toList

/-- The columns that characters take one by one. -/
def widthApart (cluster : List Char) : Nat :=
  cluster.foldl (fun n c => n + ofChar c) 0

/-- The columns of a cluster. -/
def width (cluster : List Char) : Nat :=
  match cluster with
  | base :: mark :: _ =>
    if mark = pictureMark && isPicture base then 2 else min 2 (widthApart cluster)
  | _ => widthApart cluster

/-! ## Laying out -/

/-- The clusters up to the first one that does not fit into the columns. -/
def cut (columns : Nat) : List (List Char) → List (List Char)
  | [] => []
  | cluster :: rest =>
    if width cluster ≤ columns then cluster :: cut (columns - width cluster) rest else []

/-- The columns of clusters side by side. -/
def widthOf (clusters : List (List Char)) : Nat :=
  clusters.foldl (fun n cluster => n + width cluster) 0

/-- Clusters in a place of that many columns, filled up with a character of one column. -/
def place (fill : String) (columns : Nat) (clusters : List (List Char)) : String :=
  let shown := cut columns clusters
  String.ofList shown.flatten
    ++ String.join (List.replicate (columns - widthOf shown) fill)

/-- A text in a place of that many columns. -/
def fit (columns : Nat) (s : String) : String :=
  let all := clusters s
  if all.all (width · == 0) then place " " columns [] else place " " columns all

/-- A line of running text in a place of that many columns: what takes no column is left out, and
what is too wide for the whole place is passed over. -/
def fitLine (columns : Nat) (parts : List String) : String :=
  place " " columns <| (parts.flatMap clusters).filter fun cluster =>
    cluster ≠ ['\n'] && width cluster ≠ 0 && width cluster ≤ columns

end ChannelLedger.Columns
