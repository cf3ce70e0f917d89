import ChannelLedger.Certificate.Pem
import Mathlib.Data.List.TakeWhile

/-!
# How a text is cut into lines

What is read at once ends with a line feed or with as many bytes as are read at most, so a line may come in
several pieces (`pieces`). They are the pieces of that line alone: what stands behind its line feed is cut as
if nothing stood in front (`cutAll_line`). All pieces but the last are partial, so an empty one behind the
first does not count (`OneLine.withoutBreaks_false`).

A line shows its bytes up to the last visible one (`Line.text_ofRaw`).
-/
namespace ChannelLedger.Pem

/-- The line feed. -/
def lineFeed : UInt8 := 0x0a

/-! ## What is read at once -/

theorem firstLine_nil (limit : Nat) : firstLine limit [] = [] := by
  cases limit <;> rfl

theorem firstLine_zero (text : Bytes) : firstLine 0 text = [] := by
  cases text <;> rfl

/-- Bytes without a line feed are read together with what follows them. -/
theorem firstLine_append {limit : Nat} {front : Bytes} (rest : Bytes) (unbroken : lineFeed ∉ front)
    (fits : front.length ≤ limit) :
    firstLine limit (front ++ rest) = front ++ firstLine (limit - front.length) rest := by
  induction front generalizing limit with
  | nil => simp
  | cons b front ih =>
    obtain ⟨hb, hfront⟩ := not_or.1 (List.mem_cons.not.1 unbroken)
    cases limit with
    | zero => simp at fits
    | succ limit =>
      have hne : b ≠ 0x0a := fun h => hb h.symm
      rw [List.cons_append, firstLine, if_neg hne, ih hfront (Nat.le_of_succ_le_succ fits)]
      simp

theorem firstLine_prefix (limit : Nat) (text : Bytes) : firstLine limit text <+: text := by
  induction text generalizing limit with
  | nil => simp [firstLine_nil]
  | cons b text ih =>
    cases limit with
    | zero => exact List.nil_prefix
    | succ limit =>
      rw [firstLine]
      split
      · exact List.prefix_append [b] text
      · exact (List.prefix_cons_inj b).2 (ih limit)

theorem firstLine_ne_nil {text : Bytes} (h : text ≠ []) : firstLine maxLine text ≠ [] := by
  cases text with
  | nil => exact absurd rfl h
  | cons b text =>
    rw [maxLine, firstLine]
    split <;> simp

/-! ## All lines of a text -/

/-- The lines of a text, the mark at its start included. -/
def cutAll (text : Bytes) : List Line :=
  cut text.length text

theorem cut_nil (fuel : Nat) : cut fuel [] = [] := by
  cases fuel with
  | zero => rfl
  | succ fuel => rw [cut, firstLine_nil]

theorem cut_succ (fuel : Nat) {text : Bytes} (h : text ≠ []) :
    cut (fuel + 1) text =
      .ofRaw (firstLine maxLine text) :: cut fuel (text.drop (firstLine maxLine text).length) := by
  rw [cut]
  split
  case h_1 hempty => exact absurd hempty (firstLine_ne_nil h)
  case h_2 => rfl

/-- More fuel than bytes makes no difference. -/
theorem cut_of_le {fuel : Nat} {text : Bytes} (h : text.length ≤ fuel) : cut fuel text = cutAll text := by
  unfold cutAll
  generalize hfuel : text.length = enough
  replace hfuel : text.length ≤ enough := hfuel.le
  induction fuel generalizing enough text with
  | zero =>
    obtain rfl : text = [] := List.length_eq_zero_iff.1 (Nat.le_zero.1 h)
    rw [cut_nil, cut_nil]
  | succ fuel ih =>
    by_cases hempty : text = []
    · rw [hempty, cut_nil, cut_nil]
    · have hpos := List.length_pos_iff.2 hempty
      have hfirst := List.length_pos_iff.2 (firstLine_ne_nil hempty)
      obtain ⟨enough, rfl⟩ : ∃ n, enough = n + 1 := ⟨enough - 1, by omega⟩
      have hrest : (text.drop (firstLine maxLine text).length).length ≤ fuel ∧
          (text.drop (firstLine maxLine text).length).length ≤ enough := by
        rw [List.length_drop]
        omega
      rw [cut_succ fuel hempty, cut_succ enough hempty, ih hrest.1 enough hrest.2]

/-- The line that is read first, and those of the rest. -/
theorem cutAll_append {raw rest : Bytes} (hraw : raw ≠ []) (hfirst : firstLine maxLine (raw ++ rest) = raw) :
    cutAll (raw ++ rest) = .ofRaw raw :: cutAll rest := by
  have hempty : raw ++ rest ≠ [] := List.append_ne_nil_of_left_ne_nil hraw rest
  have hpos := List.length_pos_iff.2 hraw
  obtain ⟨fuel, hfuel⟩ : ∃ fuel, (raw ++ rest).length = fuel + 1 :=
    ⟨(raw ++ rest).length - 1, by rw [List.length_append]; omega⟩
  have hrest : rest.length ≤ fuel := by
    rw [List.length_append] at hfuel
    omega
  rw [cutAll, hfuel, cut_succ fuel hempty, hfirst, List.drop_left, cut_of_le hrest]

/-- A text that is not empty has a first line. -/
theorem exists_cutAll_eq_cons {text : Bytes} (h : text ≠ []) :
    ∃ others, cutAll text = .ofRaw (firstLine maxLine text) :: others := by
  obtain ⟨fuel, hfuel⟩ : ∃ fuel, text.length = fuel + 1 := Nat.exists_eq_add_one.2 (List.length_pos_iff.2 h)
  exact ⟨_, by rw [cutAll, hfuel, cut_succ fuel h]⟩

/-- What is read first has no byte behind a line feed. -/
theorem mem_firstLine {limit : Nat} {text : Bytes} {b : UInt8} (h : b ∈ firstLine limit text) :
    b ∈ text.takeWhile (· ≠ lineFeed) ∨ b = lineFeed := by
  induction text generalizing limit with
  | nil => simp [firstLine_nil] at h
  | cons c text ih =>
    cases limit with
    | zero => simp [firstLine_zero] at h
    | succ limit =>
      rw [firstLine] at h
      split at h
      case isTrue hc => exact .inr ((List.mem_singleton.1 h).trans hc)
      case isFalse hc =>
        have hbreak : c ≠ lineFeed := hc
        rw [List.takeWhile_cons, if_pos (decide_eq_true hbreak), List.mem_cons]
        rcases List.mem_cons.1 h with rfl | h
        · exact .inl (.inl rfl)
        · exact (ih h).imp_left .inr

/-! ## The pieces of a line -/

/-- A line as it stands: it ends in its only line feed. -/
def IsLine (raw : Bytes) : Prop :=
  ∃ line, raw = line ++ [lineFeed] ∧ lineFeed ∉ line

/-- What is read at once of a line, one after the other. -/
def pieces (raw : Bytes) : List Bytes :=
  if _h : raw.length ≤ maxLine then [raw]
  else raw.take maxLine :: pieces (raw.drop maxLine)
  termination_by raw.length
  decreasing_by
    rw [List.length_drop]
    simp only [maxLine] at _h ⊢
    omega

theorem pieces_of_le {raw : Bytes} (h : raw.length ≤ maxLine) : pieces raw = [raw] := by
  rw [pieces, dif_pos h]

/-- The line feed of a line that is read in pieces is in the last one. -/
theorem IsLine.drop {raw : Bytes} (h : IsLine raw) (long : ¬ raw.length ≤ maxLine) :
    lineFeed ∉ raw.take maxLine ∧ IsLine (raw.drop maxLine) := by
  obtain ⟨line, rfl, unbroken⟩ := h
  have hlength : maxLine ≤ line.length := by
    rw [List.length_append, List.length_singleton] at long
    omega
  rw [List.take_append_of_le_length hlength, List.drop_append_of_le_length hlength]
  exact ⟨fun hmem => unbroken (List.mem_of_mem_take hmem),
    line.drop maxLine, rfl, fun hmem => unbroken (List.mem_of_mem_drop hmem)⟩

/-- **A line is cut into its pieces, whatever follows it.** -/
theorem cutAll_line {raw : Bytes} (h : IsLine raw) (rest : Bytes) :
    cutAll (raw ++ rest) = (pieces raw).map .ofRaw ++ cutAll rest := by
  fun_induction pieces raw with
  | case1 raw fits =>
    obtain ⟨line, rfl, unbroken⟩ := h
    have hfirst : firstLine maxLine ((line ++ [lineFeed]) ++ rest) = line ++ [lineFeed] := by
      rw [List.length_append, List.length_singleton] at fits
      obtain ⟨limit, hlimit⟩ : ∃ limit, maxLine - line.length = limit + 1 :=
        ⟨maxLine - line.length - 1, by omega⟩
      rw [List.append_assoc, firstLine_append _ unbroken (by omega), hlimit]
      simp [firstLine, lineFeed]
    exact cutAll_append (by simp) hfirst
  | case2 raw long ih =>
    obtain ⟨unbroken, hdrop⟩ := h.drop long
    have hhead : (raw.take maxLine).length = maxLine := List.length_take_of_le (Nat.le_of_not_le long)
    have hfirst : firstLine maxLine (raw.take maxLine ++ (raw.drop maxLine ++ rest)) = raw.take maxLine := by
      rw [firstLine_append _ unbroken hhead.le, hhead, Nat.sub_self, firstLine_zero, List.append_nil]
    have hraw : raw.take maxLine ≠ [] := by
      rw [← List.length_pos_iff, hhead]
      decide
    rw [List.map_cons, List.cons_append, ← ih hdrop, ← cutAll_append hraw hfirst, ← List.append_assoc,
      List.take_append_drop]

theorem infix_of_mem_pieces {raw piece : Bytes} (h : piece ∈ pieces raw) : piece <:+: raw := by
  fun_induction pieces raw with
  | case1 raw => exact List.mem_singleton.1 h ▸ List.infix_refl _
  | case2 raw _ ih =>
    rcases List.mem_cons.1 h with rfl | h
    · exact (List.take_prefix maxLine raw).isInfix
    · exact (ih h).trans (List.drop_suffix maxLine raw).isInfix

theorem flatten_pieces (raw : Bytes) : (pieces raw).flatten = raw := by
  fun_induction pieces raw with
  | case1 raw => simp
  | case2 raw _ ih => rw [List.flatten_cons, ih, List.take_append_drop]

/-- The first piece, and whatever comes behind it. -/
theorem exists_pieces_eq_cons (raw : Bytes) : ∃ others, pieces raw = raw.take maxLine :: others := by
  fun_cases pieces raw with
  | case1 fits => exact ⟨[], by rw [List.take_of_length_le fits]⟩
  | case2 => exact ⟨_, rfl⟩

/-! ## Lines in pieces -/

/-- The pieces of one line: all but the last go on in the next one. -/
inductive OneLine : List Line → Prop
  | last {line : Line} : line.isPartial = false → OneLine [line]
  | part {line : Line} {others : List Line} : line.isPartial = true → OneLine others → OneLine (line :: others)

theorem oneLine_pieces {raw : Bytes} (h : IsLine raw) : OneLine ((pieces raw).map .ofRaw) := by
  fun_induction pieces raw with
  | case1 raw =>
    obtain ⟨line, rfl, -⟩ := h
    exact .last (by simp [Line.ofRaw, lineFeed])
  | case2 raw long ih =>
    obtain ⟨unbroken, hdrop⟩ := h.drop long
    have hlast : (raw.take maxLine).getLast? ≠ some 0x0a := fun hlast => unbroken (List.mem_of_getLast? hlast)
    refine .part ?_ (ih hdrop)
    simp only [Line.ofRaw, List.length_take_of_le (Nat.le_of_not_le long), beq_self_eq_true, Bool.true_and, bne_iff_ne]
    exact hlast

/-- The lines that show something. -/
def shown (lines : List Line) : List Line :=
  lines.filter (!·.text.isEmpty)

namespace OneLine

variable {line : Line} {others : List Line}

/-- Behind a part of a line what shows nothing does not count. -/
theorem withoutBreaks_true (h : OneLine others) (more : List Line) :
    withoutBreaks true (others ++ more) = shown others ++ withoutBreaks false more := by
  induction h with
  | @last line hlast => cases hempty : line.text.isEmpty <;> simp [withoutBreaks, shown, hempty, hlast]
  | @part line others hpart _ ih =>
    rw [shown] at ih
    cases hempty : line.text.isEmpty <;> simp [withoutBreaks, shown, hempty, hpart, ih]

/-- The first piece of a line counts in any case. -/
theorem withoutBreaks_false (h : OneLine (line :: others)) (more : List Line) :
    withoutBreaks false (line :: others ++ more) = line :: shown others ++ withoutBreaks false more := by
  cases h with
  | last hlast => simp [withoutBreaks, shown, hlast]
  | part hpart hothers => simp [withoutBreaks, hpart, hothers.withoutBreaks_true]

end OneLine

/-! ## What a line shows -/

namespace Line

/-- What is dropped at the end of a line is what nothing visible stands behind. -/
theorem text_ofRaw {text ending : Bytes} (kept : ∀ b, text.getLast? = some b → isTrailing b = false)
    (dropped : ∀ b ∈ ending, isTrailing b = true) : (ofRaw (text ++ ending)).text = text := by
  have hending : ∀ b ∈ ending.reverse, isTrailing b = true := fun b hb => dropped b (List.mem_reverse.1 hb)
  have htext : text.reverse.dropWhile isTrailing = text.reverse := by
    cases hlast : text.reverse with
    | nil => rfl
    | cons b bs =>
      have hb : isTrailing b = false := kept b (by rw [← List.head?_reverse, hlast]; rfl)
      rw [List.dropWhile_cons, hb]
      simp
  rw [ofRaw, List.reverse_append, List.dropWhile_append_of_pos hending, htext, List.reverse_reverse]

/-- A line shows its bytes in front of those that are dropped. -/
theorem exists_eq_text_append (raw : Bytes) :
    ∃ ending, raw = (ofRaw raw).text ++ ending ∧ (∀ b ∈ ending, isTrailing b = true) ∧
      ∀ b, (ofRaw raw).text.getLast? = some b → isTrailing b = false := by
  refine ⟨(raw.reverse.takeWhile isTrailing).reverse, ?_, fun b hb => ?_, fun b hb => ?_⟩
  · rw [ofRaw, ← List.reverse_append, List.takeWhile_append_dropWhile, List.reverse_reverse]
  · exact List.mem_takeWhile_imp (List.mem_reverse.1 hb)
  · rw [ofRaw, List.getLast?_reverse] at hb
    have hhead := List.head?_dropWhile_not isTrailing raw.reverse
    rw [hb] at hhead
    simpa using hhead

/-- Dropping does not touch what is visible. -/
theorem filter_text_ofRaw (raw : Bytes) :
    (ofRaw raw).text.filter (!isTrailing ·) = raw.filter (!isTrailing ·) := by
  obtain ⟨ending, heq, hending, -⟩ := exists_eq_text_append raw
  have hnone : ending.filter (!isTrailing ·) = [] := by
    rw [List.filter_eq_nil_iff]
    intro b hb
    simp [hending b hb]
  conv => rhs; rw [heq, List.filter_append, hnone, List.append_nil]

theorem text_ofRaw_ne_nil {raw : Bytes} {b : UInt8} (hmem : b ∈ raw) (hb : isTrailing b = false) :
    (ofRaw raw).text ≠ [] := by
  intro hempty
  have hfilter := filter_text_ofRaw raw
  rw [hempty, List.filter_nil] at hfilter
  have hmem' : b ∈ raw.filter (!isTrailing ·) := List.mem_filter.2 ⟨hmem, by simp [hb]⟩
  rw [← hfilter] at hmem'
  cases hmem'

/-- What a piece shows of a line stands in front of the bytes that the line drops. -/
theorem infix_of_mem_pieces {text ending piece : Bytes} (dropped : ∀ b ∈ ending, isTrailing b = true)
    (h : piece ∈ pieces (text ++ ending)) : (ofRaw piece).text <:+: text := by
  obtain ⟨behind, heq, -, kept⟩ := exists_eq_text_append piece
  generalize (ofRaw piece).text = front at heq kept
  cases hlast : front.getLast? with
  | none =>
    rw [List.getLast?_eq_none_iff.1 hlast]
    exact List.nil_infix
  | some b =>
    -- the last byte that shows is not among those that are dropped, so all is in front of it
    obtain ⟨init, hinit⟩ := List.getLast?_eq_some_iff.1 hlast
    subst hinit
    obtain ⟨before, after, happend⟩ := Pem.infix_of_mem_pieces h
    rw [heq, ← List.append_assoc, ← List.append_assoc, List.append_assoc _ behind] at happend
    have hb : b ∉ ending := fun hmem => by simp [dropped b hmem] at kept
    rcases List.append_eq_append_iff.1 happend with ⟨rest, hrest, -⟩ | ⟨rest, hrest, hending⟩
    · exact ⟨before, rest, by rw [hrest, ← List.append_assoc before]⟩
    · rcases List.eq_nil_or_concat rest with rfl | ⟨rest, last, rfl⟩
      · rw [List.append_nil] at hrest
        exact ⟨before, [], by rw [List.append_nil, ← hrest, ← List.append_assoc before]⟩
      · have hsame : last = b := by
          have := congrArg List.getLast? hrest
          simpa using this.symm
        exact absurd (hending ▸ by simp [hsame]) hb

end Line

end ChannelLedger.Pem
