import Mathlib
import ChannelLedger.Json.Printer
import ChannelLedger.Json.Reader

/-!
# Numbers and strings in a JSON text

A number has no end of its own: it is read up to the first character that cannot be a part of it, so what
may stand behind it matters. A string ends with its quote, and each of its characters is escaped on its own.

Main theorems `number_append`, `number_toString` and `string_body`.
-/
namespace ChannelLedger.Json.Reader

variable {input rest left : Input}

/-! ## Numbers -/

/-- What may stand behind a number: nothing that could be a part of it. -/
def Stops : Input → Prop
  | [] => True
  | c :: _ => c.isDigit = false ∧ c ≠ '.' ∧ c ≠ 'e' ∧ c ≠ 'E'

theorem digits_append (stops : Stops rest) (input : Input) :
    digits (input ++ rest) = ((digits input).1, (digits input).2 ++ rest) := by
  induction input with
  | nil =>
    cases rest with
    | nil => rfl
    | cons c rest => simp [digits, stops.1]
  | cons c input ih =>
    simp only [digits, List.cons_append, List.takeWhile_cons, List.dropWhile_cons, Prod.mk.injEq] at ih ⊢
    cases c.isDigit with
    | true => simp [ih.1, ih.2]
    | false => simp

theorem whole_append (stops : Stops rest) {ds : List Char} (h : whole input = some (ds, left)) :
    whole (input ++ rest) = some (ds, left ++ rest) := by
  unfold whole at h ⊢
  rw [digits_append stops]
  generalize digits input = split at h ⊢
  split at h
  · cases h
  · cases h
  · obtain ⟨rfl, rfl⟩ := Prod.mk.inj (Option.some.inj h)
    simp_all

/-- Digits that have to be there, and what is made of them. -/
theorem someDigits_append {α : Type} {make : List Char → α} {a : α} (stops : Stops rest)
    (h : (match digits input with | ([], _) => none | (ds, rest) => some (make ds, rest)) = some (a, left)) :
    (match digits (input ++ rest) with | ([], _) => none | (ds, rest) => some (make ds, rest)) =
      some (a, left ++ rest) := by
  rw [digits_append stops]
  generalize digits input = split at h ⊢
  split at h
  · cases h
  · obtain ⟨rfl, rfl⟩ := Prod.mk.inj (Option.some.inj h)
    simp_all

theorem fraction_of_ne {c : Char} (h : c ≠ '.') (input : Input) : fraction (c :: input) = some ([], c :: input) := by
  unfold fraction
  split
  case h_1 heq => exact absurd (List.cons.inj heq).1 h
  case h_2 => rfl

theorem fraction_append (stops : Stops rest) {ds : List Char} (h : fraction input = some (ds, left)) :
    fraction (input ++ rest) = some (ds, left ++ rest) := by
  cases input with
  | nil =>
    obtain ⟨rfl, rfl⟩ := Prod.mk.inj (Option.some.inj h)
    cases rest with
    | nil => rfl
    | cons c rest => exact fraction_of_ne stops.2.1 rest
  | cons c input =>
    by_cases hc : c = '.'
    · subst hc
      exact someDigits_append stops h
    · rw [fraction_of_ne hc, Option.some.injEq, Prod.mk.injEq] at h
      obtain ⟨rfl, rfl⟩ := h
      exact fraction_of_ne hc (input ++ rest)

theorem exponent_append (stops : Stops rest) {exp : Option Int} (h : exponent input = some (exp, left)) :
    exponent (input ++ rest) = some (exp, left ++ rest) := by
  cases input with
  | nil =>
    obtain ⟨rfl, rfl⟩ := Prod.mk.inj (Option.some.inj h)
    cases rest with
    | nil => rfl
    | cons c rest => simp [exponent, stops.2.2.1, stops.2.2.2]
  | cons e input =>
    rw [List.cons_append]
    by_cases he : e = 'e' ∨ e = 'E'
    · simp only [exponent, he, if_true] at h ⊢
      cases input with
      | nil => simp [digits] at h
      | cons sign input =>
        rw [List.cons_append]
        by_cases hminus : sign = '-'
        · subst hminus
          exact someDigits_append stops h
        by_cases hplus : sign = '+'
        · subst hplus
          exact someDigits_append stops h
        simp only [List.cons.injEq, hminus, hplus, false_and, imp_false, not_false_eq_true, implies_true] at h ⊢
        exact someDigits_append stops h
    · simp only [exponent, he, if_false, Option.some.injEq, Prod.mk.injEq] at h ⊢
      obtain ⟨rfl, rfl⟩ := h
      exact ⟨rfl, rfl⟩

/-- The sign of a number, and what stands behind it. -/
def sign : Input → Bool × Input
  | '-' :: rest => (true, rest)
  | rest => (false, rest)

theorem sign_append {c : Char} :
    sign (c :: input ++ rest) = ((sign (c :: input)).1, (sign (c :: input)).2 ++ rest) := by
  by_cases h : c = '-'
  · subst h
    rfl
  · simp [sign, h]

/-- The number that digits and an exponent write; the text is kept of one that is no integer. -/
def numeral (negative : Bool) (wholeDigits fractionDigits : List Char) (exp : Option Int) (text : List Char) :
    Option Json :=
  let n := digitsValue wholeDigits
  let inRange := if negative then 0 < n && n ≤ 0x8000000000000000 else n < 0x10000000000000000
  if fractionDigits.isEmpty ∧ exp.isNone ∧ inRange then some (.int (if negative then -(n : Int) else n))
  else if isFinite (digitsValue (wholeDigits ++ fractionDigits)) (exp.getD 0 - fractionDigits.length) then
    some (.real (String.ofList text))
  else none

/-- A number is read part by part. -/
theorem number_eq (input : Input) : number input =
    (whole (sign input).2).bind fun (wholeDigits, behindWhole) =>
      (fraction behindWhole).bind fun (fractionDigits, behindFraction) =>
        (exponent behindFraction).bind fun (exp, rest) =>
          (numeral (sign input).1 wholeDigits fractionDigits exp (input.take (input.length - rest.length))).map
            (·, rest) := by
  change (whole (sign input).2 >>= _) = _
  refine bind_congr fun behindWhole => bind_congr fun behindFraction => bind_congr fun rest => ?_
  simp only [numeral]
  rw [apply_ite (Option.map _), apply_ite (Option.map _)]
  rfl

theorem number_eq_some {json : Json} : number input = some (json, left) ↔
    ∃ wholeDigits fractionDigits exp behindWhole behindFraction,
      whole (sign input).2 = some (wholeDigits, behindWhole) ∧
      fraction behindWhole = some (fractionDigits, behindFraction) ∧
      exponent behindFraction = some (exp, left) ∧
      numeral (sign input).1 wholeDigits fractionDigits exp (input.take (input.length - left.length)) = some json := by
  simp only [number_eq, Option.bind_eq_some_iff, Option.map_eq_some_iff, Prod.exists, Prod.mk.injEq]
  constructor
  · rintro ⟨wholeDigits, behindWhole, hwhole, fractionDigits, behindFraction, hfraction, exp, rest, hexponent, _,
      hnumeral, rfl, rfl⟩
    exact ⟨_, _, _, _, _, hwhole, hfraction, hexponent, hnumeral⟩
  · rintro ⟨wholeDigits, fractionDigits, exp, behindWhole, behindFraction, hwhole, hfraction, hexponent, hnumeral⟩
    exact ⟨_, _, hwhole, _, _, hfraction, _, _, hexponent, _, hnumeral, rfl, rfl⟩

/-- **A number ends where nothing can be a part of it**, and is read alike whatever stands behind it. -/
theorem number_append (stops : Stops rest) {json : Json} (h : number input = some (json, left)) :
    number (input ++ rest) = some (json, left ++ rest) := by
  rw [number_eq_some] at h ⊢
  obtain ⟨wholeDigits, fractionDigits, exp, behindWhole, behindFraction, hwhole, hfraction, hexponent, hnumeral⟩ := h
  cases input with
  | nil => simp [sign, whole, digits] at hwhole
  | cons c input =>
    rw [sign_append]
    refine ⟨wholeDigits, fractionDigits, exp, _, _, whole_append stops hwhole, fraction_append stops hfraction,
      exponent_append stops hexponent, ?_⟩
    have htake : (c :: input ++ rest).take ((c :: input ++ rest).length - (left ++ rest).length) =
        (c :: input).take ((c :: input).length - left.length) := by
      rw [List.length_append, List.length_append, Nat.add_sub_add_right, List.take_append_of_le_length (Nat.sub_le _ _)]
    rw [htake]
    exact hnumeral

theorem digits_toDigits (n : Nat) : digits (Nat.toDigits 10 n) = (Nat.toDigits 10 n, []) := by
  have hall : ∀ c ∈ Nat.toDigits 10 n, c.isDigit = true := fun c hc =>
    Nat.isDigit_of_mem_toDigits (by decide) (by decide) hc
  simp only [digits, Prod.mk.injEq]
  exact ⟨List.takeWhile_eq_self_iff.2 hall, List.dropWhile_eq_nil_iff.2 hall⟩

theorem digitsValue_toDigits (n : Nat) : digitsValue (Nat.toDigits 10 n) = n := by
  have heq (ds : List Char) : digitsValue ds = Nat.ofDigitChars 10 ds 0 := by
    simp only [digitsValue, Nat.ofDigitChars, Nat.mul_comm 10]
    rfl
  rw [heq, Nat.ofDigitChars_ten_toDigits]

/-- No zero stands in front of the digits of a number. -/
theorem head_toDigits_ne_zero {n : Nat} (h : n ≠ 0) : (Nat.toDigits 10 n).head? ≠ some '0' := by
  induction n using Nat.strongRecOn with
  | ind n ih =>
    by_cases hlt : n < 10
    · rw [Nat.toDigits_of_lt_base hlt]
      interval_cases n <;> simp_all [Nat.digitChar]
    · rw [Nat.toDigits_of_base_le (by decide) (Nat.le_of_not_lt hlt),
        List.head?_append_of_ne_nil _ Nat.toDigits_ne_nil]
      exact ih (n / 10) (by omega) (by omega)

theorem whole_toDigits (n : Nat) : whole (Nat.toDigits 10 n) = some (Nat.toDigits 10 n, []) := by
  unfold whole
  rw [digits_toDigits]
  split
  case h_1 heq => exact absurd (Prod.mk.inj heq).1 Nat.toDigits_ne_nil
  case h_2 heq =>
    have hdigits := (Prod.mk.inj heq).1
    have hzero : n = 0 := by
      by_contra hne
      exact head_toDigits_ne_zero hne (by rw [hdigits]; rfl)
    rw [hzero] at hdigits
    cases hdigits
  case h_3 heq =>
    obtain ⟨rfl, rfl⟩ := Prod.mk.inj heq
    rfl

theorem toList_toString_ofNat (n : Nat) : (toString (Int.ofNat n)).toList = Nat.toDigits 10 n := by
  change (toString n).toList = _
  rw [Nat.toString_eq_ofList_toDigits, String.toList_ofList]

theorem toList_toString_negSucc (n : Nat) : (toString (Int.negSucc n)).toList = '-' :: Nat.toDigits 10 (n + 1) := by
  change ("-" ++ toString (n + 1)).toList = _
  simp only [Nat.toString_eq_ofList_toDigits, String.toList_append, String.toList_ofList]
  rfl

theorem sign_toDigits (n : Nat) : sign (Nat.toDigits 10 n) = (false, Nat.toDigits 10 n) := by
  unfold sign
  split
  case h_1 rest heq =>
    have hdigit : '-'.isDigit = true :=
      Nat.isDigit_of_mem_toDigits (by decide) (by decide) (heq ▸ List.mem_cons_self : '-' ∈ Nat.toDigits 10 n)
    cases hdigit
  case h_2 => rfl

/-- **An integer of 64 bits, with a sign or without, is read as it is printed.** -/
theorem number_toString {n : Int} (low : -0x8000000000000000 ≤ n) (high : n < 0x10000000000000000) :
    number (toString n).toList = some (.int n, []) := by
  rw [number_eq_some]
  cases n with
  | ofNat n =>
    rw [toList_toString_ofNat, sign_toDigits]
    refine ⟨_, [], none, [], [], whole_toDigits n, rfl, rfl, ?_⟩
    have hn : n < 0x10000000000000000 := Int.ofNat_lt.1 high
    simp [numeral, digitsValue_toDigits, hn]
  | negSucc n =>
    rw [toList_toString_negSucc]
    refine ⟨_, [], none, [], [], whole_toDigits (n + 1), rfl, rfl, ?_⟩
    have hn : n + 1 ≤ 0x8000000000000000 := by omega
    simp [numeral, sign, digitsValue_toDigits, hn]
    omega

/-! ## Strings -/

theorem fourDigits_append {n : Nat} (h : fourDigits input = some (n, left)) :
    fourDigits (input ++ rest) = some (n, left ++ rest) := by
  match input with
  | [] | [_] | [_, _] | [_, _, _] => cases h
  | a :: b :: c :: d :: input =>
    simp only [fourDigits, List.cons_append, Option.bind_eq_bind, Option.bind_eq_some_iff] at h ⊢
    obtain ⟨a', ha, b', hb, c', hc, d', hd, h⟩ := h
    simp only [Option.pure_def, Option.some.injEq, Prod.mk.injEq] at h
    obtain ⟨rfl, rfl⟩ := h
    exact ⟨a', ha, b', hb, c', hc, d', hd, rfl⟩

/-- A control character is read from its four digits. -/
theorem unicode_fourDigits {c : Char} (h : c.toNat < 0x20) (rest : Input) :
    unicode ((Json.fourDigits c.toNat).toList ++ rest) = some (c, rest) := by
  have hall : ∀ n < 0x20, fourDigits (Json.fourDigits n).toList = some (n, []) := by decide +kernel
  rw [unicode, fourDigits_append (hall _ h)]
  have hlow : ¬ (0xd800 ≤ c.toNat ∧ c.toNat < 0xdc00) := by omega
  have hhigh : ¬ (0xdc00 ≤ c.toNat ∧ c.toNat < 0xe000) := by omega
  simp [hlow, hhigh, Char.ofNat_toNat]

/-- A character stands for itself in a string, or it is escaped and read from its escape. -/
theorem escape_cases (c : Char) :
    ((escape c).toList = [c] ∧ c ≠ '"' ∧ c ≠ '\\' ∧ ¬ c.toNat < 0x20) ∨
    ∃ body, (escape c).toList = '\\' :: body ∧ ∀ rest, escaped (body ++ rest) = some (c, rest) := by
  unfold escape
  split
  case h_8 hquote hbackslash _ _ _ _ _ =>
    split
    case isTrue hcontrol =>
      refine .inr ⟨'u' :: (Json.fourDigits c.toNat).toList, ?_, unicode_fourDigits hcontrol⟩
      rw [String.toList_append]
      rfl
    case isFalse hcontrol => exact .inl ⟨by simp, hquote, hbackslash, hcontrol⟩
  all_goals exact .inr ⟨_, by simp; rfl, fun _ => rfl⟩

/-- The characters of a string as they stand between its quotes. -/
def body (cs : List Char) : Input :=
  cs.flatMap fun c => (escape c).toList

theorem length_le_body (cs : List Char) : cs.length ≤ (body cs).length := by
  induction cs with
  | nil => exact Nat.le_refl 0
  | cons c cs ih =>
    have hpos : 0 < (escape c).toList.length := by
      rcases escape_cases c with ⟨h, -⟩ | ⟨_, h, -⟩ <;> simp [h]
    simp only [body, List.flatMap_cons, List.length_append, List.length_cons] at ih ⊢
    omega

theorem characters_body (cs : List Char) (rest : Input) {fuel : Nat} (enough : cs.length < fuel) :
    characters fuel (body cs ++ '"' :: rest) = some (cs, rest) := by
  induction cs generalizing fuel with
  | nil =>
    obtain ⟨fuel, rfl⟩ := Nat.exists_eq_add_one_of_ne_zero (Nat.ne_zero_of_lt enough)
    simp [body, characters]
  | cons c cs ih =>
    obtain ⟨fuel, rfl⟩ := Nat.exists_eq_add_one_of_ne_zero (Nat.ne_zero_of_lt enough)
    have hrest := ih (Nat.lt_of_succ_lt_succ enough)
    have hbody : body (c :: cs) = (escape c).toList ++ body cs := List.flatMap_cons
    rw [hbody, List.append_assoc]
    rcases escape_cases c with ⟨h, hquote, hbackslash, hcontrol⟩ | ⟨escape, h, hescaped⟩
    · simp [h, characters, hquote, hbackslash, hcontrol, hrest]
    · simp [h, characters, hescaped, hrest]

/-- **A string is read as it is quoted**, whatever characters it has. -/
theorem string_body (s : String) (rest : Input) : string (body s.toList ++ '"' :: rest) = some (s, rest) := by
  have enough : s.toList.length < (body s.toList ++ '"' :: rest).length + 1 := by
    have := length_le_body s.toList
    rw [List.length_append]
    omega
  rw [string, characters_body _ _ enough, Option.map_some]
  simp

theorem toList_quote (s : String) : (quote s).toList = '"' :: (body s.toList ++ ['"']) := by
  simp only [quote, String.toList_append, String.toList_join, List.flatMap_map]
  rfl

end ChannelLedger.Json.Reader
