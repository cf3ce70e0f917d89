import ChannelLedger.Proofs.Certificate.Base64
import ChannelLedger.Proofs.Certificate.Lines
import Mathlib.Data.List.Basic

/-!
# The lines between the ends of a block

A text is written in lines (`Row`) and read in pieces, so what is between the ends of a block is first a matter
of which pieces count. `Body` says how the lines there may carry bytes. Its data may be split into lines and
spaced in any way; only behind headers, or behind an empty line in their place, the lines have a fixed width.
Either way the data is read as the bytes that it spells.

Main theorems `Body.contents_eq` and `Body.isEnd_eq_false`.
-/
namespace ChannelLedger.Pem

/-! ## Lines as they are written -/

/-- A line of a text without its line feed: what it shows, and what is dropped behind that. -/
structure Row where
  text : Bytes
  ending : Bytes
  unbroken : lineFeed ∉ text ++ ending
  kept : ∀ b, text.getLast? = some b → isTrailing b = false
  dropped : ∀ b ∈ ending, isTrailing b = true

namespace Row

/-- The line as it stands. -/
def raw (row : Row) : Bytes :=
  row.text ++ row.ending ++ [lineFeed]

/-- The pieces in which the line is read. -/
def lines (row : Row) : List Line :=
  (pieces row.raw).map .ofRaw

/-- Something shows in what is read first of the line. -/
def Shows (row : Row) : Prop :=
  ∃ b ∈ row.raw.take maxLine, isTrailing b = false

/-- Every line is one that may be written. -/
def ofLine (line : Bytes) (unbroken : lineFeed ∉ line) : Row where
  text := (Line.ofRaw line).text
  ending := line.drop (Line.ofRaw line).text.length
  unbroken := by
    obtain ⟨ending, heq, -⟩ := Line.exists_eq_text_append line
    generalize (Line.ofRaw line).text = text at heq
    rwa [heq, List.drop_left, ← heq]
  kept := by
    obtain ⟨-, -, -, hkept⟩ := Line.exists_eq_text_append line
    exact hkept
  dropped := by
    obtain ⟨ending, heq, hending, -⟩ := Line.exists_eq_text_append line
    generalize (Line.ofRaw line).text = text at heq
    rwa [heq, List.drop_left]

theorem isLine (row : Row) : IsLine row.raw :=
  ⟨row.text ++ row.ending, rfl, row.unbroken⟩

theorem raw_eq (row : Row) : row.raw = row.text ++ (row.ending ++ [lineFeed]) :=
  List.append_assoc ..

theorem dropped_raw (row : Row) : ∀ b ∈ row.ending ++ [lineFeed], isTrailing b = true := by
  intro b hb
  rcases List.mem_append.1 hb with hb | hb
  · exact row.dropped b hb
  · rw [List.mem_singleton.1 hb]
    decide

theorem cutAll_raw (row : Row) (rest : Bytes) : cutAll (row.raw ++ rest) = row.lines ++ cutAll rest :=
  cutAll_line row.isLine rest

theorem cutAll_rows (rows : List Row) (rest : Bytes) :
    cutAll (rows.flatMap raw ++ rest) = rows.flatMap lines ++ cutAll rest := by
  induction rows with
  | nil => rfl
  | cons row rows ih =>
    rw [List.flatMap_cons, List.flatMap_cons, List.append_assoc, cutAll_raw, ih, List.append_assoc]

theorem text_ofRaw_raw (row : Row) : (Line.ofRaw row.raw).text = row.text := by
  rw [raw_eq]
  exact Line.text_ofRaw row.kept row.dropped_raw

/-- A line that is read at once. -/
theorem lines_of_le {row : Row} (fits : row.raw.length ≤ maxLine) : row.lines = [.ofRaw row.raw] := by
  rw [lines, pieces_of_le fits, List.map_singleton]

/-- Bytes that are all dropped show nothing. -/
theorem text_ofRaw_eq_nil {raw : Bytes} (h : ∀ b ∈ raw, isTrailing b = true) : (Line.ofRaw raw).text = [] := by
  have hkept : ∀ b, ([] : Bytes).getLast? = some b → isTrailing b = false := by simp
  exact Line.text_ofRaw hkept h

/-- What a line that is not too long shows comes in the first piece. -/
theorem lines_of_short {row : Row} (short : row.text.length ≤ maxLine) :
    ∃ first others, row.lines = first :: others ∧ first.text = row.text ∧ shown others = [] := by
  obtain ⟨others, hpieces⟩ := exists_pieces_eq_cons row.raw
  have htake : row.raw.take maxLine =
      row.text ++ (row.ending ++ [lineFeed]).take (maxLine - row.text.length) := by
    rw [raw_eq, List.take_append, List.take_of_length_le short]
  have hothers : others.flatten = (row.ending ++ [lineFeed]).drop (maxLine - row.text.length) := by
    have hflatten := flatten_pieces row.raw
    rw [hpieces, List.flatten_cons] at hflatten
    have hsplit := hflatten.trans (List.take_append_drop maxLine row.raw).symm
    rw [List.append_cancel_left hsplit, raw_eq, List.drop_append, List.drop_of_length_le short, List.nil_append]
  refine ⟨.ofRaw (row.raw.take maxLine), others.map .ofRaw, by rw [lines, hpieces, List.map_cons], ?_, ?_⟩
  · rw [htake]
    exact Line.text_ofRaw row.kept fun b hb => row.dropped_raw b (List.mem_of_mem_take hb)
  · rw [shown, List.filter_eq_nil_iff]
    intro line hline
    obtain ⟨piece, hpiece, rfl⟩ := List.mem_map.1 hline
    have hempty : (Line.ofRaw piece).text = [] := by
      refine text_ofRaw_eq_nil fun b hb => row.dropped_raw b ?_
      have hmem : b ∈ others.flatten := List.mem_flatten.2 ⟨piece, hpiece, hb⟩
      rw [hothers] at hmem
      exact List.mem_of_mem_drop hmem
    simp [hempty]

/-! ## Which pieces count -/

/-- The pieces of a line that count: the first, and what shows behind it. -/
def counted (row : Row) : List Line :=
  row.lines.take 1 ++ shown (row.lines.drop 1)

theorem withoutBreaks_lines (row : Row) (more : List Line) :
    withoutBreaks false (row.lines ++ more) = row.counted ++ withoutBreaks false more := by
  obtain ⟨others, hpieces⟩ := exists_pieces_eq_cons row.raw
  have hlines : row.lines = .ofRaw (row.raw.take maxLine) :: others.map .ofRaw := by
    rw [lines, hpieces, List.map_cons]
  have hone : OneLine row.lines := oneLine_pieces row.isLine
  rw [counted, hlines]
  rw [hlines] at hone
  exact hone.withoutBreaks_false more

theorem withoutBreaks_rows (rows : List Row) (more : List Line) :
    withoutBreaks false (rows.flatMap lines ++ more) = rows.flatMap counted ++ withoutBreaks false more := by
  induction rows with
  | nil => rfl
  | cons row rows ih =>
    rw [List.flatMap_cons, List.flatMap_cons, List.append_assoc, withoutBreaks_lines, ih, List.append_assoc]

/-- Of a line whose first piece shows something, what counts is what shows. -/
theorem Shows.counted_eq {row : Row} (h : row.Shows) : row.counted = shown row.lines := by
  obtain ⟨others, hpieces⟩ := exists_pieces_eq_cons row.raw
  obtain ⟨b, hmem, hb⟩ := h
  have hfirst := Line.text_ofRaw_ne_nil hmem hb
  simp [counted, lines, hpieces, shown, hfirst]

/-- Of a line that is not too long, one piece counts. -/
theorem counted_of_short {row : Row} (short : row.text.length ≤ maxLine) :
    ∃ line, row.counted = [line] ∧ line.text = row.text := by
  obtain ⟨first, others, hlines, htext, hothers⟩ := lines_of_short short
  exact ⟨first, by simp [counted, hlines, hothers], htext⟩

end Row

/-! ## Data -/

/-- A byte that data may have: it is dropped at the end of a line only if it does not count anywhere, and it
neither hides nor ends anything. -/
def IsData (b : UInt8) : Prop :=
  isTrailing b = Base64.isBlank b ∧ b ≠ 0 ∧ b ≠ Base64.dash ∧ b ≠ 0x3a

instance (b : UInt8) : Decidable (IsData b) :=
  inferInstanceAs (Decidable (_ ∧ _))

theorem isData_of_isBlank {b : UInt8} (h : Base64.isBlank b = true) : IsData b := by
  simp only [Base64.isBlank, Bool.or_eq_true, decide_eq_true_eq] at h
  rcases h with ((rfl | rfl) | rfl) | rfl <;> decide

/-- The lines, blanks left out, spell a byte string in base64. -/
def Spells (rows : List Row) (data : Bytes) : Prop :=
  ∃ unused, (rows.flatMap (·.text)).filter (!Base64.isBlank ·) = Base64.spelling unused data

theorem Spells.isData {rows : List Row} {data : Bytes} (h : Spells rows data) :
    ∀ b ∈ rows.flatMap (·.text), IsData b := by
  intro b hb
  obtain ⟨unused, heq⟩ := h
  by_cases hblank : Base64.isBlank b = true
  · exact isData_of_isBlank hblank
  · have hmem : b ∈ (rows.flatMap (·.text)).filter (!Base64.isBlank ·) :=
      List.mem_filter.2 ⟨hb, by simpa using hblank⟩
    rw [heq] at hmem
    exact Base64.forall_mem_spelling (by decide) (by decide) unused data b hmem

theorem visible_eq_self {text : Bytes} (h : 0 ∉ text) : visible text = text := by
  rw [visible, List.takeWhile_eq_self_iff]
  intro b hb
  simpa using fun hzero : b = 0 => h (hzero ▸ hb)

/-- Lines that show nothing have no visible text. -/
theorem join_shown (lines : List Line) : join (shown lines) = join lines := by
  induction lines with
  | nil => rfl
  | cons line lines ih =>
    rw [shown] at ih
    cases htext : line.text with
    | nil => simpa [shown, join, htext, visible] using ih
    | cons b text => simpa [shown, join, htext] using ih

/-- What is read of data is what it has besides blanks. -/
theorem decode?_of_isData {text : Bytes} (h : ∀ b ∈ text, IsData b) :
    Base64.decode? text = Base64.ofGroups (text.filter (!isTrailing ·)) := by
  have htake : text.takeWhile (· != Base64.dash) = text := by
    rw [List.takeWhile_eq_self_iff]
    intro b hb
    simpa using (h b hb).2.2.1
  rw [Base64.decode?, htake]
  congr 1
  exact List.filter_congr fun b hb => by rw [(h b hb).1]

namespace Row

variable {row : Row} (hdata : ∀ b ∈ row.text, IsData b)

include hdata

theorem isData_of_mem_lines : ∀ line ∈ row.lines, ∀ b ∈ line.text, IsData b := by
  intro line hline b hb
  obtain ⟨piece, hpiece, rfl⟩ := List.mem_map.1 hline
  rw [raw_eq] at hpiece
  exact hdata b ((Line.infix_of_mem_pieces row.dropped_raw hpiece).subset hb)

/-- Cutting a line of data loses blanks only. -/
theorem filter_join_lines :
    (join row.lines).filter (!isTrailing ·) = row.text.filter (!isTrailing ·) := by
  have hjoin : join row.lines = row.lines.flatMap (·.text) := by
    refine List.flatMap_congr fun line hline => visible_eq_self fun hzero => ?_
    exact (isData_of_mem_lines hdata line hline 0 hzero).2.1 rfl
  have hnone : (row.ending ++ [lineFeed]).filter (!isTrailing ·) = [] := by
    rw [List.filter_eq_nil_iff]
    intro b hb
    simp [row.dropped_raw b hb]
  calc (join row.lines).filter (!isTrailing ·)
      = (pieces row.raw).flatMap fun piece => (Line.ofRaw piece).text.filter (!isTrailing ·) := by
        rw [hjoin, lines, List.flatMap_map, List.filter_flatMap]
    _ = (pieces row.raw).flatMap fun piece => piece.filter (!isTrailing ·) := by
        simp only [Line.filter_text_ofRaw]
    _ = row.raw.filter (!isTrailing ·) := by
        rw [List.flatMap_def, ← List.filter_flatten, flatten_pieces]
    _ = row.text.filter (!isTrailing ·) := by
        rw [raw_eq, List.filter_append, hnone, List.append_nil]

theorem hasColon_eq_false : ∀ line ∈ row.lines, line.hasColon = false := by
  intro line hline
  obtain ⟨piece, hpiece, rfl⟩ := List.mem_map.1 hline
  have hcolon : 0x3a ∉ row.raw := by
    rw [raw_eq, List.mem_append, not_or]
    exact ⟨fun h => (hdata _ h).2.2.2 rfl, fun h => absurd (row.dropped_raw _ h) (by decide)⟩
  simpa [Line.ofRaw] using fun h => hcolon ((infix_of_mem_pieces hpiece).subset h)

theorem isEnd_eq_false : ∀ line ∈ row.lines, isEnd line = false := by
  intro line hline
  by_contra hend
  rw [Bool.not_eq_false, isEnd, List.isPrefixOf_iff_prefix] at hend
  have hdash : Base64.dash ∈ line.text := hend.subset (by decide +kernel)
  exact (isData_of_mem_lines hdata line hline _ hdash).2.2.1 rfl

end Row

/-! ## What stands between the ends -/

/-- The lines between the ends of a block with the given label, of which some are headers. -/
inductive Body (label data : Bytes) : (headers : List Row) → List Row → Prop
  /-- Data alone, in lines of any length. -/
  | plain {rows : List Row} : 0x3a ∉ label → (∀ row ∈ rows, row.Shows) → Spells rows data → Body label data [] rows
  /-- Behind headers and an empty line, data in lines of 64 characters. -/
  | headed {headers rows : List Row} {empty : Row} : (∀ row ∈ headers, row.Shows) →
      (∀ row ∈ headers, ∀ line ∈ row.lines, isEnd line = false) → empty.text = [] →
      (∀ row ∈ rows, row.text ≠ [] ∧ row.text.length ≤ 64) → (∀ row ∈ rows.dropLast, row.text.length = 64) →
      Spells rows data → Body label data headers (headers ++ empty :: rows)

/-- Of lines that begin with something visible, what counts is what shows. -/
theorem counted_of_shows {rows : List Row} (shows : ∀ row ∈ rows, row.Shows) :
    rows.flatMap Row.counted = shown (rows.flatMap Row.lines) := by
  rw [shown, List.filter_flatMap]
  exact List.flatMap_congr fun row hrow => (shows row hrow).counted_eq

theorem shown_eq_takeWhile (lines : List Line) (more : List Line) :
    (shown lines ++ more).takeWhile (!·.text.isEmpty) = shown lines ++ more.takeWhile (!·.text.isEmpty) :=
  List.takeWhile_append_of_pos fun _ hline => (List.mem_filter.1 hline).2

theorem shown_dropWhile (lines : List Line) (more : List Line) :
    (shown lines ++ more).dropWhile (!·.text.isEmpty) = more.dropWhile (!·.text.isEmpty) :=
  List.dropWhile_append_of_pos fun _ hline => (List.mem_filter.1 hline).2

/-- Data alone is read as it stands. -/
theorem contents_plain {rows : List Row} {last : Line} (shows : ∀ row ∈ rows, row.Shows)
    (hdata : ∀ row ∈ rows, ∀ b ∈ row.text, IsData b) (hlast : last.hasColon = false) :
    contents (rows.flatMap Row.lines) last = some ([], join (rows.flatMap Row.lines)) := by
  have hcounted : withoutBreaks false (rows.flatMap Row.lines) = shown (rows.flatMap Row.lines) := by
    have hrows := Row.withoutBreaks_rows rows []
    rwa [List.append_nil, withoutBreaks, List.append_nil, counted_of_shows shows] at hrows
  have htake := shown_eq_takeWhile (rows.flatMap Row.lines) []
  have hdrop := shown_dropWhile (rows.flatMap Row.lines) []
  rw [List.append_nil, List.takeWhile_nil, List.append_nil] at htake
  rw [List.append_nil, List.dropWhile_nil] at hdrop
  have hcolon : (shown (rows.flatMap Row.lines) ++ [last]).any (·.hasColon) = false := by
    rw [List.any_eq_false]
    intro line hline
    rcases List.mem_append.1 hline with hline | hline
    · obtain ⟨row, hrow, hmem⟩ := List.mem_flatMap.1 (List.mem_filter.1 hline).1
      simp [Row.hasColon_eq_false (hdata row hrow) line hmem]
    · simp [List.mem_singleton.1 hline, hlast]
  simp only [contents, hcounted, htake, hdrop, hcolon, join_shown]
  rfl

/-- The pieces of short lines show what the lines show. -/
theorem map_text_counted {rows : List Row} (short : ∀ row ∈ rows, row.text.length ≤ maxLine) :
    (rows.flatMap Row.counted).map (·.text) = rows.map (·.text) := by
  induction rows with
  | nil => rfl
  | cons row rows ih =>
    obtain ⟨hrow, hrows⟩ := List.forall_mem_cons.1 short
    obtain ⟨line, hline, htext⟩ := Row.counted_of_short hrow
    rw [List.flatMap_cons, hline, List.map_append, List.map_singleton, htext, ih hrows, List.map_cons]
    rfl

theorem isShaped_eq_true {lines : List Line} (h : ∀ text ∈ lines.map (·.text), text ≠ [] ∧ text.length ≤ 64)
    (hwidth : ∀ text ∈ (lines.map (·.text)).dropLast, text.length = 64) : isShaped lines = true := by
  rw [← List.map_dropLast] at hwidth
  rw [List.forall_mem_map] at h hwidth
  rw [isShaped, Bool.and_eq_true, List.all_eq_true, List.all_eq_true]
  refine ⟨fun line hline => by simpa using hwidth line hline, fun line hline => ?_⟩
  obtain ⟨hne, hle⟩ := h line hline
  simpa [hne] using hle

/-- Behind headers and an empty line, data is read line by line. -/
theorem contents_headed {headers rows : List Row} {empty : Row} (last : Line) (shows : ∀ row ∈ headers, row.Shows)
    (hempty : empty.text = []) (hrows : ∀ row ∈ rows, row.text ≠ [] ∧ row.text.length ≤ 64)
    (hwidth : ∀ row ∈ rows.dropLast, row.text.length = 64) (hdata : ∀ row ∈ rows, 0 ∉ row.text) :
    contents ((headers ++ empty :: rows).flatMap Row.lines) last =
      some (join (headers.flatMap Row.lines), rows.flatMap (·.text)) := by
  have hshort : empty.text.length ≤ maxLine := by simp [hempty]
  obtain ⟨line, hline, htext⟩ := Row.counted_of_short hshort
  rw [hempty] at htext
  have hmap : (rows.flatMap Row.counted).map (·.text) = rows.map (·.text) :=
    map_text_counted fun row hrow => (hrows row hrow).2.trans (by decide)
  generalize hdatalines : rows.flatMap Row.counted = lines at hmap
  have hcounted : withoutBreaks false ((headers ++ empty :: rows).flatMap Row.lines) =
      shown (headers.flatMap Row.lines) ++ line :: lines := by
    have hall := Row.withoutBreaks_rows (headers ++ empty :: rows) []
    rwa [List.append_nil, withoutBreaks, List.append_nil, List.flatMap_append (f := Row.counted),
      List.flatMap_cons (f := Row.counted), counted_of_shows shows, hline, hdatalines] at hall
  have hshaped : isShaped lines = true := by
    refine isShaped_eq_true ?_ ?_
    · rw [hmap, List.forall_mem_map]
      exact hrows
    · rw [hmap, ← List.map_dropLast, List.forall_mem_map]
      exact hwidth
  have hjoin : join lines = rows.flatMap (·.text) := by
    calc join lines = (lines.map (·.text)).flatMap visible := by rw [List.flatMap_map, join]
      _ = rows.flatMap fun row => visible row.text := by rw [hmap, List.flatMap_map]
      _ = rows.flatMap (·.text) := List.flatMap_congr fun row hrow => visible_eq_self (hdata row hrow)
  have htake := shown_eq_takeWhile (headers.flatMap Row.lines) (line :: lines)
  have hdrop := shown_dropWhile (headers.flatMap Row.lines) (line :: lines)
  have hstop : (!line.text.isEmpty) = false := by rw [htext]; rfl
  rw [List.takeWhile_cons, hstop, if_neg (by decide), List.append_nil] at htake
  rw [List.dropWhile_cons, hstop, if_neg (by decide)] at hdrop
  simp only [contents, hcounted, htake, hdrop, hshaped, if_true, join_shown, hjoin]

namespace Body

variable {label data : Bytes} {headers rows : List Row}

/-- The data of a body, cut into lines or not, is read as the bytes that it spells. -/
theorem decode?_of_spells (h : Spells rows data) {text : Bytes} (hdata : ∀ b ∈ text, IsData b)
    (heq : text.filter (!isTrailing ·) = (rows.flatMap (·.text)).filter (!isTrailing ·)) :
    Base64.decode? text = some data := by
  obtain ⟨unused, hspells⟩ := id h
  have hblank : (rows.flatMap (·.text)).filter (!isTrailing ·) = (rows.flatMap (·.text)).filter (!Base64.isBlank ·) :=
    List.filter_congr fun b hb => by rw [(h.isData b hb).1]
  rw [decode?_of_isData hdata, heq, hblank, hspells, Base64.ofGroups_spelling]

/-- **The lines of a body are read as the bytes that it carries.** -/
theorem contents_eq (h : Body label data headers rows) {last : Line} (hlast : 0x3a ∉ label → last.hasColon = false) :
    ∃ text, contents (rows.flatMap Row.lines) last = some (join (headers.flatMap Row.lines), text) ∧
      Base64.decode? text = some data := by
  cases h with
  | plain hlabel shows hspells =>
    have hdata : ∀ row ∈ rows, ∀ b ∈ row.text, IsData b :=
      fun row hrow b hb => hspells.isData b (List.mem_flatMap.2 ⟨row, hrow, hb⟩)
    refine ⟨_, contents_plain shows hdata (hlast hlabel), decode?_of_spells hspells ?_ ?_⟩
    · intro b hb
      obtain ⟨line, hline, hb⟩ := List.mem_flatMap.1 hb
      obtain ⟨row, hrow, hmem⟩ := List.mem_flatMap.1 hline
      exact Row.isData_of_mem_lines (hdata row hrow) line hmem b (List.takeWhile_subset _ hb)
    · rw [join, List.flatMap_assoc, List.filter_flatMap, List.filter_flatMap]
      exact List.flatMap_congr fun row hrow => Row.filter_join_lines (hdata row hrow)
  | @headed _ rows empty shows _ hempty hrows hwidth hspells =>
    have hdata : ∀ row ∈ rows, 0 ∉ row.text :=
      fun row hrow hzero => (hspells.isData 0 (List.mem_flatMap.2 ⟨row, hrow, hzero⟩)).2.1 rfl
    exact ⟨_, contents_headed last shows hempty hrows hwidth hdata, decode?_of_spells hspells hspells.isData rfl⟩

/-- **No line of a body ends its block.** -/
theorem isEnd_eq_false (h : Body label data headers rows) : ∀ line ∈ rows.flatMap Row.lines, isEnd line = false := by
  intro line hline
  obtain ⟨row, hrow, hmem⟩ := List.mem_flatMap.1 hline
  have hspelled {rows : List Row} (hspells : Spells rows data) (hrow : row ∈ rows) : isEnd line = false :=
    Row.isEnd_eq_false (fun b hb => hspells.isData b (List.mem_flatMap.2 ⟨row, hrow, hb⟩)) line hmem
  cases h with
  | plain _ _ hspells => exact hspelled hspells hrow
  | headed _ hheaders hempty _ _ hspells =>
    rcases List.mem_append.1 hrow with hrow | hrow
    · exact hheaders row hrow line hmem
    · rcases List.mem_cons.1 hrow with rfl | hrow
      · exact Row.isEnd_eq_false (by simp [hempty]) line hmem
      · exact hspelled hspells hrow

end Body

end ChannelLedger.Pem
