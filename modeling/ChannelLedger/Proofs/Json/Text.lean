import ChannelLedger.Proofs.Json.Token

/-!
# JSON text is read back

What the two layouts print, the reader reads as the value that was printed. A text that is read as a value
(`Reads`) is so whatever stands behind it, as long as a number can end there; both layouts put such texts
between brackets and commas and differ in the blanks alone, so one lemma for arrays and one for objects
serve both.

Main theorem `TextOf.parse?`.
-/
namespace ChannelLedger.Json

namespace Reader

variable {left : Input}

/-! ## Values -/

/-- A text begins, and not with a blank or with the end of an array or an object. -/
def Opens (text : Input) : Prop :=
  ∃ c rest, text = c :: rest ∧ isBlank c = false ∧ c ≠ ']' ∧ c ≠ '\x7d'

/-- A text is read as a value, whatever stands behind it. -/
structure Reads (depth : Nat) (json : Json) (text : Input) : Prop where
  opens : Opens text
  value : ∀ rest, Stops rest → value depth (text ++ rest) = some (json, rest)

theorem skipBlanks_append {blanks : Input} (h : ∀ c ∈ blanks, isBlank c = true) (input : Input) :
    skipBlanks (blanks ++ input) = skipBlanks input :=
  List.dropWhile_append_of_pos h

theorem skipBlanks_cons {c : Char} (h : isBlank c = false) (input : Input) : skipBlanks (c :: input) = c :: input := by
  simp [skipBlanks, h]

theorem skipBlanks_append_cons {blanks : Input} (h : ∀ c ∈ blanks, isBlank c = true) {c : Char}
    (hc : isBlank c = false) (rest : Input) : skipBlanks (blanks ++ c :: rest) = c :: rest := by
  rw [skipBlanks_append h, skipBlanks_cons hc]

theorem stops_blanks {blanks : Input} (h : ∀ c ∈ blanks, isBlank c = true) {input : Input} (stops : Stops input) :
    Stops (blanks ++ input) := by
  cases blanks with
  | nil => exact stops
  | cons c blanks =>
    have hc := h c List.mem_cons_self
    simp only [isBlank, Bool.or_eq_true, decide_eq_true_eq] at hc
    rcases hc with ((rfl | rfl) | rfl) | rfl <;> exact ⟨rfl, by decide⟩

variable {depth : Nat}

theorem reads_null : Reads depth .null "null".toList where
  opens := ⟨'n', "ull".toList, rfl, by decide⟩
  value rest _ := by
    change Reader.value depth ('n' :: 'u' :: 'l' :: 'l' :: rest) = _
    rw [Reader.value]
    rfl

theorem reads_true : Reads depth (.bool true) "true".toList where
  opens := ⟨'t', "rue".toList, rfl, by decide⟩
  value rest _ := by
    change Reader.value depth ('t' :: 'r' :: 'u' :: 'e' :: rest) = _
    rw [Reader.value]
    rfl

theorem reads_false : Reads depth (.bool false) "false".toList where
  opens := ⟨'f', "alse".toList, rfl, by decide⟩
  value rest _ := by
    change Reader.value depth ('f' :: 'a' :: 'l' :: 's' :: 'e' :: rest) = _
    rw [Reader.value]
    rfl

theorem reads_string (s : String) : Reads depth (.string s) (quote s).toList where
  opens := ⟨'"', _, toList_quote s, by decide⟩
  value rest _ := by
    rw [toList_quote, List.cons_append, List.append_assoc, Reader.value]
    exact congrArg _ (string_body s rest)

/-- A number begins with its sign or a digit. -/
theorem head_of_number {text : Input} {json : Json} (h : number text = some (json, left)) :
    ∃ c rest, text = c :: rest ∧ (c = '-' ∨ c.isDigit = true) := by
  obtain ⟨wholeDigits, -, -, behindWhole, -, hwhole, -⟩ := number_eq_some.1 h
  cases text with
  | nil => simp [sign, whole, digits] at hwhole
  | cons c text =>
    refine ⟨c, text, rfl, ?_⟩
    by_cases hminus : c = '-'
    · exact .inl hminus
    · cases hdigit : c.isDigit with
      | true => exact .inr rfl
      | false => simp [sign, hminus, whole, digits, hdigit] at hwhole

/-- The first character of a number begins nothing else. -/
theorem ne_of_digit {c : Char} (h : c = '-' ∨ c.isDigit = true) (other : Char) (hminus : other ≠ '-')
    (hdigit : other.isDigit = false) : c ≠ other := by
  rintro rfl
  simp [hminus, hdigit] at h

theorem value_of_digit {c : Char} (h : c = '-' ∨ c.isDigit = true) (rest : Input) :
    value depth (c :: rest) = number (c :: rest) := by
  rw [Reader.value]
  all_goals exact fun _ heq => ne_of_digit h _ (by decide) (by decide) (List.cons.inj heq).1

/-- **A number that is read to its end is read whatever stands behind it.** -/
theorem reads_number {json : Json} {text : Input} (h : number text = some (json, [])) : Reads depth json text := by
  obtain ⟨c, rest, rfl, hc⟩ := head_of_number h
  refine ⟨⟨c, rest, rfl, ?_, ne_of_digit hc _ (by decide) (by decide), ne_of_digit hc _ (by decide) (by decide)⟩,
    fun behind stops => ?_⟩
  · have hne := ne_of_digit hc
    simp [isBlank, hne ' ' (by decide) (by decide), hne '\n' (by decide) (by decide),
      hne '\t' (by decide) (by decide), hne '\r' (by decide) (by decide)]
  · rw [List.cons_append, value_of_digit hc]
    exact number_append stops h

/-! ## Arrays and objects -/

/-- Texts with a comma between them, each behind the same blanks. -/
def entries (front : Input) (texts : List Input) : Input :=
  [','].intercalate (texts.map (front ++ ·))

variable {front behind : Input}

theorem entries_singleton (text rest : Input) : entries front [text] ++ rest = front ++ (text ++ rest) := by
  simp [entries]

theorem entries_cons_cons (text text' : Input) (texts : List Input) (rest : Input) :
    entries front (text :: text' :: texts) ++ rest =
      front ++ (text ++ ',' :: (entries front (text' :: texts) ++ rest)) := by
  simp [entries, List.intercalate_cons_cons]

theorem skipBlanks_idem (input : Input) : skipBlanks (skipBlanks input) = skipBlanks input :=
  List.dropWhile_idempotent isBlank input

/-- A value is what is left behind blanks. -/
theorem Reads.skipBlanks {json : Json} {text : Input} (h : Reads depth json text)
    (hfront : ∀ c ∈ front, isBlank c = true) (rest : Input) :
    skipBlanks (front ++ (text ++ rest)) = text ++ rest := by
  obtain ⟨c, opening, rfl, hblank, -⟩ := h.opens
  exact skipBlanks_append_cons hfront hblank (opening ++ rest)

/-- What stands between entries and behind the last one stops a number. -/
theorem stops_cons {c : Char} (h : c ∈ [',', ']', '\x7d']) (rest : Input) : Stops (c :: rest) := by
  simp only [List.mem_cons, List.not_mem_nil, or_false] at h
  rcases h with rfl | rfl | rfl <;> exact ⟨rfl, by decide⟩

/-- Reading items begins with the first character that is no blank. -/
theorem items_skipBlanks (item : Input → Option (Json × Input)) (fuel : Nat) (input : Input) :
    items item fuel (Reader.skipBlanks input) = items item fuel input := by
  cases fuel with
  | zero => rfl
  | succ fuel => rw [items, items, skipBlanks_idem]

/-- **The items of an array are read one after the other.** -/
theorem items_entries (hfront : ∀ c ∈ front, isBlank c = true) (hbehind : ∀ c ∈ behind, isBlank c = true)
    {values : List Json} {texts : List Input} (h : List.Forall₂ (Reads depth) values texts) (nonempty : values ≠ [])
    (rest : Input) {fuel : Nat} (enough : values.length ≤ fuel) :
    items (value depth) fuel (entries front texts ++ (behind ++ ']' :: rest)) = some (values, rest) := by
  induction h generalizing fuel with
  | nil => exact absurd rfl nonempty
  | @cons json text values texts hfirst hrest ih =>
    obtain ⟨fuel, rfl⟩ := Nat.exists_eq_add_one_of_ne_zero (n := fuel) (by simp at enough; omega)
    cases hrest with
    | nil =>
      have hend := skipBlanks_append_cons hbehind (by decide : isBlank ']' = false) rest
      have hstops := stops_blanks hbehind (stops_cons (by decide : ']' ∈ _) rest)
      rw [entries_singleton, items, hfirst.skipBlanks hfront, hfirst.value _ hstops]
      simp [hend]
    | cons hsecond hothers =>
      have hothers := ih (List.cons_ne_nil _ _) (Nat.le_of_succ_le_succ enough)
      rw [entries_cons_cons, items, hfirst.skipBlanks hfront, hfirst.value _ (stops_cons (by decide) _)]
      simp [skipBlanks_cons (show isBlank ',' = false by decide), hothers]

/-- The text of a field, with blanks behind the colon. -/
def fieldText (gap : Input) (name : String) (text : Input) : Input :=
  '"' :: (body name.toList ++ '"' :: ':' :: (gap ++ text))

/-- A text is that of a field: its name, the colon, blanks, and a text that is read as its value. -/
def ReadsField (depth : Nat) (gap : Input) (field : String × Json) (text : Input) : Prop :=
  ∃ valueText, text = fieldText gap field.1 valueText ∧ Reads depth field.2 valueText

theorem ReadsField.opens {gap : Input} {field : String × Json} {text : Input} (h : ReadsField depth gap field text) :
    Opens text := by
  obtain ⟨valueText, rfl, -⟩ := h
  exact ⟨'"', _, rfl, by decide⟩

theorem skipBlanks_fieldText (hfront : ∀ c ∈ front, isBlank c = true) (gap : Input) (name : String)
    (text rest : Input) : Reader.skipBlanks (front ++ (fieldText gap name text ++ rest)) =
      '"' :: (body name.toList ++ '"' :: ':' :: (gap ++ (text ++ rest))) := by
  rw [fieldText, List.cons_append, skipBlanks_append_cons hfront (by decide)]
  simp

/-- **The fields of an object are read one after the other.** -/
theorem fields_entries (hfront : ∀ c ∈ front, isBlank c = true) (hbehind : ∀ c ∈ behind, isBlank c = true)
    {gap : Input} (hgap : ∀ c ∈ gap, isBlank c = true) {values : List (String × Json)} {texts : List Input}
    (h : List.Forall₂ (ReadsField depth gap) values texts) (nonempty : values ≠ [])
    (rest : Input) {fuel : Nat} (enough : values.length ≤ fuel) :
    fields (value depth) fuel (entries front texts ++ (behind ++ '\x7d' :: rest)) = some (values, rest) := by
  induction h generalizing fuel with
  | nil => exact absurd rfl nonempty
  | @cons field text values texts hfirst hrest ih =>
    obtain ⟨fuel, rfl⟩ := Nat.exists_eq_add_one_of_ne_zero (n := fuel) (by simp at enough; omega)
    obtain ⟨valueText, rfl, hvalue⟩ := hfirst
    have hcolon : isBlank ':' = false := by decide
    cases hrest with
    | nil =>
      have hend := skipBlanks_append_cons hbehind (by decide : isBlank '\x7d' = false) rest
      have hstops := stops_blanks hbehind (stops_cons (by decide : '\x7d' ∈ _) rest)
      rw [entries_singleton, fields, skipBlanks_fieldText hfront]
      simp [string_body, skipBlanks_cons hcolon, hvalue.skipBlanks hgap, hvalue.value _ hstops, hend]
    | @cons _ text' _ texts' hsecond hothers =>
      have hothers := ih (List.cons_ne_nil _ _) (Nat.le_of_succ_le_succ enough)
      have hstops := stops_cons (by decide : ',' ∈ _) (entries front (text' :: texts') ++ (behind ++ '\x7d' :: rest))
      rw [entries_cons_cons, fields, skipBlanks_fieldText hfront]
      simp [string_body, skipBlanks_cons hcolon, hvalue.skipBlanks hgap, hvalue.value _ hstops,
        skipBlanks_cons (show isBlank ',' = false by decide), hothers]

/-! ### Values in brackets -/

theorem reads_emptyArray : Reads (depth + 1) (.array []) ['[', ']'] where
  opens := ⟨'[', [']'], rfl, by decide⟩
  value rest _ := by
    rw [List.cons_append, Reader.value, List.cons_append, skipBlanks_cons (by decide)]
    rfl

theorem reads_emptyObject : Reads (depth + 1) (.object []) ['\x7b', '\x7d'] where
  opens := ⟨'\x7b', ['\x7d'], rfl, by decide⟩
  value rest _ := by
    rw [List.cons_append, Reader.value, List.cons_append, skipBlanks_cons (by decide)]
    rfl

theorem length_le_entries (front : Input) {texts : List Input} (h : ∀ text ∈ texts, Opens text) :
    texts.length ≤ (entries front texts).length := by
  induction texts with
  | nil => exact Nat.zero_le _
  | cons text texts ih =>
    obtain ⟨c, opening, rfl, -⟩ := h text List.mem_cons_self
    cases texts with
    | nil =>
      simp [entries]
      omega
    | cons text' texts =>
      have hrest := ih fun other hm => h other (List.mem_cons_of_mem _ hm)
      have hentries : entries front ((c :: opening) :: text' :: texts) ++ [] = _ := entries_cons_cons _ _ _ []
      have hlength := congrArg List.length hentries
      simp only [List.append_nil, List.length_append, List.length_cons] at hlength hrest ⊢
      omega

/-- Behind the bracket stands the first entry, and there is text enough for all of them. -/
theorem skipBlanks_entries (hfront : ∀ c ∈ front, isBlank c = true) {texts : List Input} (nonempty : texts ≠ [])
    (h : ∀ text ∈ texts, Opens text) (rest : Input) :
    ∃ c opening, Reader.skipBlanks (entries front texts ++ rest) = c :: opening ∧ c ≠ ']' ∧ c ≠ '\x7d' ∧
      texts.length ≤ opening.length + 1 := by
  obtain ⟨text, texts, rfl⟩ := List.exists_cons_of_ne_nil nonempty
  obtain ⟨c, opening, rfl, hblank, hbracket, hbrace⟩ := h text List.mem_cons_self
  have hskip (behind : Input) : Reader.skipBlanks (front ++ (c :: opening ++ behind)) = c :: (opening ++ behind) :=
    skipBlanks_append_cons hfront hblank _
  cases texts with
  | nil => exact ⟨c, _, by rw [entries_singleton, hskip], hbracket, hbrace, by simp⟩
  | cons text' texts =>
    refine ⟨c, _, by rw [entries_cons_cons, hskip], hbracket, hbrace, ?_⟩
    have hlength := length_le_entries front fun other hm => h other (List.mem_cons_of_mem _ hm)
    simp only [List.length_append, List.length_cons] at hlength ⊢
    omega

theorem forall_of_forall₂ {α β : Type} {R : α → β → Prop} {p : β → Prop} (h : ∀ a b, R a b → p b) {as : List α}
    {bs : List β} (hall : List.Forall₂ R as bs) : ∀ b ∈ bs, p b := by
  induction hall with
  | nil => simp
  | cons hab _ ih => exact List.forall_mem_cons.2 ⟨h _ _ hab, ih⟩

theorem ne_nil_of_forall₂ {α β : Type} {R : α → β → Prop} {as : List α} {bs : List β} (h : List.Forall₂ R as bs)
    (nonempty : as ≠ []) : bs ≠ [] := by
  cases h with
  | nil => exact absurd rfl nonempty
  | cons => exact List.cons_ne_nil _ _

theorem reads_array (hfront : ∀ c ∈ front, isBlank c = true) (hbehind : ∀ c ∈ behind, isBlank c = true)
    {values : List Json} {texts : List Input} (h : List.Forall₂ (Reads depth) values texts)
    (nonempty : values ≠ []) :
    Reads (depth + 1) (.array values) ('[' :: (entries front texts ++ (behind ++ [']']))) where
  opens := ⟨'[', _, rfl, by decide⟩
  value rest _ := by
    obtain ⟨c, opening, hskip, hbracket, -, hlength⟩ := skipBlanks_entries hfront (ne_nil_of_forall₂ h nonempty)
      (forall_of_forall₂ (fun _ _ hreads => hreads.opens) h) (behind ++ ']' :: rest)
    have hitems := items_entries hfront hbehind h nonempty rest
      (show values.length ≤ (c :: opening).length + 1 by rw [h.length_eq, List.length_cons]; omega)
    rw [← items_skipBlanks, hskip] at hitems
    have htext : '[' :: (entries front texts ++ (behind ++ [']'])) ++ rest =
        '[' :: (entries front texts ++ (behind ++ ']' :: rest)) := by simp
    rw [htext, Reader.value, hskip]
    split
    case h_1 heq => exact absurd (List.cons.inj heq).1 hbracket
    case h_2 => rw [hitems, Option.map_some]

/-- Reading fields begins with the first character that is no blank. -/
theorem fields_skipBlanks (item : Input → Option (Json × Input)) (fuel : Nat) (input : Input) :
    fields item fuel (Reader.skipBlanks input) = fields item fuel input := by
  cases fuel with
  | zero => rfl
  | succ fuel => rw [fields, fields, skipBlanks_idem]

theorem reads_object (hfront : ∀ c ∈ front, isBlank c = true) (hbehind : ∀ c ∈ behind, isBlank c = true)
    {gap : Input} (hgap : ∀ c ∈ gap, isBlank c = true) {values : List (String × Json)} {texts : List Input}
    (h : List.Forall₂ (ReadsField depth gap) values texts) (nonempty : values ≠ []) :
    Reads (depth + 1) (.object values) ('\x7b' :: (entries front texts ++ (behind ++ ['\x7d']))) where
  opens := ⟨'\x7b', _, rfl, by decide⟩
  value rest _ := by
    obtain ⟨c, opening, hskip, -, hbrace, hlength⟩ := skipBlanks_entries hfront (ne_nil_of_forall₂ h nonempty)
      (forall_of_forall₂ (fun _ _ hreads => hreads.opens) h) (behind ++ '\x7d' :: rest)
    have hfields := fields_entries hfront hbehind hgap h nonempty rest
      (show values.length ≤ (c :: opening).length + 1 by rw [h.length_eq, List.length_cons]; omega)
    rw [← fields_skipBlanks, hskip] at hfields
    have htext : '\x7b' :: (entries front texts ++ (behind ++ ['\x7d'])) ++ rest =
        '\x7b' :: (entries front texts ++ (behind ++ '\x7d' :: rest)) := by simp
    rw [htext, Reader.value, hskip]
    split
    case h_1 heq => exact absurd (List.cons.inj heq).1 hbrace
    case h_2 => rw [hfields, Option.map_some]

end Reader

/-! ## The two layouts -/

mutual

/-- A value that can be read: its integers have 64 bits, its other numbers are read as they stand, and it
nests no deeper than that. -/
def Readable : (depth : Nat) → Json → Prop
  | _, .null => True
  | _, .bool _ => True
  | _, .int n => -0x8000000000000000 ≤ n ∧ n < 0x10000000000000000
  | _, .real text => Reader.number text.toList = some (.real text, [])
  | _, .string _ => True
  | 0, .array _ => False
  | depth + 1, .array items => ReadableItems depth items
  | 0, .object _ => False
  | depth + 1, .object fields => ReadableFields depth fields

def ReadableItems (depth : Nat) : List Json → Prop
  | [] => True
  | item :: items => Readable depth item ∧ ReadableItems depth items

def ReadableFields (depth : Nat) : List (String × Json) → Prop
  | [] => True
  | (_, value) :: fields => Readable depth value ∧ ReadableFields depth fields

end

open Reader

/-- Entries between brackets, on one line. -/
theorem toList_line (opening closing : String) (texts : List String) :
    (opening ++ ",".intercalate texts ++ closing).toList =
      opening.toList ++ (entries [] (texts.map String.toList) ++ ([] ++ closing.toList)) := by
  simp [entries, Function.comp_def]

/-- The line feed and the indentation in front of an entry. -/
def indentation (depth : Nat) : Input :=
  '\n' :: List.replicate (2 * depth) ' '

theorem isBlank_indentation (depth : Nat) : ∀ c ∈ indentation depth, isBlank c = true := by
  refine List.forall_mem_cons.2 ⟨rfl, fun c hm => ?_⟩
  rw [List.eq_of_mem_replicate hm]
  rfl

/-- Entries between brackets, each on a line of its own. -/
theorem toList_block (opening closing : String) (depth : Nat) {texts : List String} (nonempty : texts ≠ []) :
    (block opening closing depth texts).toList = opening.toList ++
      (entries (indentation (depth + 1)) (texts.map String.toList) ++ (indentation depth ++ closing.toList)) := by
  have hempty : texts.isEmpty = false := List.isEmpty_eq_false_iff.2 nonempty
  simp [block, hempty, entries, indentation, Function.comp_def]

theorem toList_block_nil (opening closing : String) (depth : Nat) :
    (block opening closing depth []).toList = opening.toList ++ closing.toList := by
  simp [block]

theorem toList_fieldLine (name colon gap text : String) (hcolon : colon.toList = ':' :: gap.toList) :
    (quote name ++ colon ++ text).toList = fieldText gap.toList name text.toList := by
  simp [toList_quote, fieldText, hcolon]

mutual

theorem reads_print : (json : Json) → {depth : Nat} → Readable depth json → Reads depth json (print json).toList
  | .null, _, _ => reads_null
  | .bool true, _, _ => reads_true
  | .bool false, _, _ => reads_false
  | .int _, _, h => reads_number (number_toString h.1 h.2)
  | .real _, _, h => reads_number h
  | .string s, _, _ => reads_string s
  | .array _, 0, h => h.elim
  | .array [], _ + 1, _ => reads_emptyArray
  | .array (item :: items), _ + 1, h => by
    rw [print, toList_line]
    exact reads_array (by simp) (by simp) (reads_printItems (item :: items) h) (List.cons_ne_nil _ _)
  | .object _, 0, h => h.elim
  | .object [], _ + 1, _ => reads_emptyObject
  | .object (field :: fields), _ + 1, h => by
    rw [print, toList_line]
    exact reads_object (by simp) (by simp) (by simp) (reads_printFields (field :: fields) h) (List.cons_ne_nil _ _)

theorem reads_printItems : (items : List Json) → {depth : Nat} → ReadableItems depth items →
    List.Forall₂ (Reads depth) items ((printItems items).map String.toList)
  | [], _, _ => .nil
  | item :: items, _, h => .cons (reads_print item h.1) (reads_printItems items h.2)

theorem reads_printFields : (fields : List (String × Json)) → {depth : Nat} → ReadableFields depth fields →
    List.Forall₂ (ReadsField depth []) fields ((printFields fields).map String.toList)
  | [], _, _ => .nil
  | (name, value) :: fields, _, h =>
    .cons ⟨_, toList_fieldLine name ":" "" _ rfl, reads_print value h.1⟩ (reads_printFields fields h.2)

end

mutual

theorem reads_pretty : (json : Json) → {depth : Nat} → (level : Nat) → Readable depth json →
    Reads depth json (pretty level json).toList
  | .null, _, _, _ => reads_null
  | .bool true, _, _, _ => reads_true
  | .bool false, _, _, _ => reads_false
  | .int _, _, _, h => reads_number (number_toString h.1 h.2)
  | .real _, _, _, h => reads_number h
  | .string s, _, _, _ => reads_string s
  | .array _, 0, _, h => h.elim
  | .array [], _ + 1, _, _ => by
    rw [pretty, prettyItems, toList_block_nil]
    exact reads_emptyArray
  | .array (item :: items), _ + 1, level, h => by
    have hentries : prettyItems (level + 1) (item :: items) ≠ [] := List.cons_ne_nil _ _
    rw [pretty, toList_block _ _ _ hentries]
    exact reads_array (isBlank_indentation _) (isBlank_indentation _) (reads_prettyItems (item :: items) _ h)
      (List.cons_ne_nil _ _)
  | .object _, 0, _, h => h.elim
  | .object [], _ + 1, _, _ => by
    rw [pretty, prettyFields, toList_block_nil]
    exact reads_emptyObject
  | .object (field :: fields), _ + 1, level, h => by
    have hentries : prettyFields (level + 1) (field :: fields) ≠ [] := List.cons_ne_nil _ _
    rw [pretty, toList_block _ _ _ hentries]
    exact reads_object (isBlank_indentation _) (isBlank_indentation _) (List.forall_mem_singleton.2 rfl)
      (reads_prettyFields (field :: fields) _ h) (List.cons_ne_nil _ _)

theorem reads_prettyItems : (items : List Json) → {depth : Nat} → (level : Nat) → ReadableItems depth items →
    List.Forall₂ (Reads depth) items ((prettyItems level items).map String.toList)
  | [], _, _, _ => .nil
  | item :: items, _, level, h => .cons (reads_pretty item level h.1) (reads_prettyItems items level h.2)

theorem reads_prettyFields : (fields : List (String × Json)) → {depth : Nat} → (level : Nat) →
    ReadableFields depth fields →
    List.Forall₂ (ReadsField depth [' ']) fields ((prettyFields level fields).map String.toList)
  | [], _, _, _ => .nil
  | (name, value) :: fields, _, level, h =>
    .cons ⟨_, toList_fieldLine name ": " " " _ rfl, reads_pretty value level h.1⟩ (reads_prettyFields fields level h.2)

end

/-! ## Whole texts -/

/-- The texts of a value: all on one line, or laid out over several. -/
inductive TextOf (json : Json) : String → Prop
  | compact : TextOf json json.print
  | laidOut : TextOf json (json.pretty 0)

/-- **What either layout prints is read as the value that was printed.** -/
theorem TextOf.parse? {json : Json} {text : String} (h : TextOf json text) (readable : Readable maxDepth json) :
    parse? text = some json := by
  have hreads : Reads maxDepth json text.toList := by
    cases h with
    | compact => exact reads_print json readable
    | laidOut => exact reads_pretty json 0 readable
  have hskip : skipBlanks text.toList = text.toList := by
    simpa using hreads.skipBlanks (List.forall_mem_nil _) []
  have hvalue := hreads.value [] trivial
  rw [List.append_nil] at hvalue
  rw [Json.parse?, hskip, hvalue]
  rfl

end ChannelLedger.Json
