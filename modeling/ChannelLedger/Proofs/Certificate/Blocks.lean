import ChannelLedger.Certificate.Pem
import Mathlib.Data.List.TakeWhile

/-!
# The block that a certificate is read from

What stands among the lines of a text is a matter of what each line begins or ends. `Encloses` says what a
well-formed block is, and `Leads` which blocks are passed and which one is taken: the search finds bytes in
exactly the lines that lead to them.

Main theorem `findCertificate_eq_some_iff`.
-/
namespace ChannelLedger.Pem

/-- A well-formed block: its first and its last line agree on the label, and what stands between them carries
bytes, at least one. -/
inductive Encloses (label headers bytes : Bytes) : List Line → Prop
  | intro {first last : Line} {body : List Line} {text : Bytes} :
      beginLabel? first = some label → (∀ line ∈ body, isEnd line = false) →
      last.text = endMark ++ label ++ tailMark → contents body last = some (headers, text) →
      Base64.decode? text = some bytes → bytes ≠ [] → Encloses label headers bytes (first :: body ++ [last])

/-- The lines in which bytes are found: those that begin no block and the blocks of other labels are passed,
and the first block of a certificate is taken, which must have no headers. -/
inductive Leads (bytes : Bytes) : List Line → Prop
  | skip {line : Line} {rest : List Line} : beginLabel? line = none → Leads bytes rest → Leads bytes (line :: rest)
  | pass {label headers other : Bytes} {block rest : List Line} : Encloses label headers other block →
      label ∉ certificateLabels → Leads bytes (withoutMark rest) → Leads bytes (block ++ rest)
  | here {label : Bytes} {block rest : List Line} : Encloses label [] bytes block →
      label ∈ certificateLabels → Leads bytes (block ++ rest)

theorem isEnd_of_text {line : Line} {label : Bytes} (h : line.text = endMark ++ label) : isEnd line = true := by
  rw [isEnd, h, List.isPrefixOf_iff_prefix]
  exact List.prefix_append endMark label

/-- What a block does to the search. -/
theorem Encloses.findCertificate_append {label headers bytes : Bytes} {block : List Line}
    (h : Encloses label headers bytes block) (rest : List Line) :
    findCertificate (block ++ rest) =
      if label ∈ certificateLabels then if headers = [] then some bytes else none
      else findCertificate (withoutMark rest) := by
  obtain @⟨first, last, body, text, hfirst, hbody, hlast, hcontents, hdecode, hbytes⟩ := h
  have hend : isEnd last = true := isEnd_of_text (by rw [hlast, List.append_assoc])
  have hpassed : ∀ line ∈ body, (!isEnd line) = true := by simpa using hbody
  have hdrop : (body ++ last :: rest).dropWhile (!isEnd ·) = last :: rest := by
    simp [List.dropWhile_append_of_pos hpassed, hend]
  have htake : (body ++ last :: rest).takeWhile (!isEnd ·) = body := by
    simp [List.takeWhile_append_of_pos hpassed, hend]
  have htext : last.text.drop endMark.length = label ++ tailMark := by
    rw [hlast, List.append_assoc, List.drop_left]
  rw [List.cons_append, List.cons_append, List.append_assoc, List.singleton_append, findCertificate]
  simp only [hfirst]
  split
  case h_1 hnone => rw [hdrop] at hnone; cases hnone
  case h_2 last' more hsome =>
    rw [hdrop] at hsome
    obtain ⟨rfl, rfl⟩ := List.cons.inj hsome
    simp only [htext, htake, hcontents, hdecode, ne_eq, not_true_eq_false, if_false, Option.bind_eq_bind,
      Option.bind_some, List.isEmpty_iff, hbytes, List.contains_iff_mem]

theorem mem_body {lines : List Line} {last : Line} {more : List Line}
    (h : lines.dropWhile (!isEnd ·) = last :: more) :
    lines = lines.takeWhile (!isEnd ·) ++ [last] ++ more ∧ isEnd last = true ∧
      ∀ line ∈ lines.takeWhile (!isEnd ·), isEnd line = false := by
  refine ⟨?_, ?_, fun line hline => ?_⟩
  · rw [List.append_assoc, List.singleton_append, ← h, List.takeWhile_append_dropWhile]
  · have hhead := List.head?_dropWhile_not (!isEnd ·) lines
    rw [h] at hhead
    simpa using hhead
  · simpa using List.mem_takeWhile_imp hline

/-- **The search finds bytes in the lines that lead to them.** -/
theorem findCertificate_eq_some_iff {lines : List Line} {bytes : Bytes} :
    findCertificate lines = some bytes ↔ Leads bytes lines := by
  constructor
  · intro h
    fun_induction findCertificate lines with
    | case1 => cases h
    | case2 line rest hnone ih => exact .skip hnone (ih h)
    | case3 => cases h
    | case4 => cases h
    | case5 first rest label hfirst last more hdrop _ hlast ih =>
      obtain ⟨hrest, hend, hbody⟩ := mem_body hdrop
      have htext : last.text = endMark ++ label ++ tailMark := by
        have hprefix := List.prefix_iff_eq_append.1 (List.isPrefixOf_iff_prefix.1 hend)
        rw [not_not.1 hlast, ← List.append_assoc] at hprefix
        exact hprefix.symm
      obtain ⟨⟨headers, text⟩, hcontents, h⟩ := Option.bind_eq_some_iff.1 h
      obtain ⟨found, hdecode, h⟩ := Option.bind_eq_some_iff.1 h
      dsimp only at h
      split at h
      case isTrue => cases h
      case isFalse hfound =>
        have hblock : Encloses label headers found (first :: rest.takeWhile (!isEnd ·) ++ [last]) :=
          .intro hfirst hbody htext hcontents hdecode (by simpa using hfound)
        rw [hrest, ← List.cons_append, ← List.cons_append]
        split at h
        case isTrue hlabel =>
          split at h
          case isTrue hheaders =>
            cases h
            rw [List.isEmpty_iff.1 hheaders] at hblock
            exact .here hblock (List.contains_iff_mem.1 hlabel)
          case isFalse => cases h
        case isFalse hlabel => exact .pass hblock (by simpa using hlabel) (ih h)
  · intro h
    induction h with
    | skip hnone _ ih => rw [findCertificate, hnone]; exact ih
    | pass hblock hlabel _ ih => rw [hblock.findCertificate_append, if_neg hlabel, ih]
    | here hblock hlabel => rw [hblock.findCertificate_append, if_pos hlabel, if_pos rfl]

end ChannelLedger.Pem
