import Mathlib
import TaggedConfig.Config.Lookup

/-!
# The pieces of a path

Pieces that are joined by full stops are cut apart again, and white space at the ends of a path does
not count.  Putting characters in the place of others changes neither where a path is cut nor what is
trimmed, as long as separators and white space stay what they are.
-/

namespace TaggedConfig

namespace Text

theorem cut_ne_nil (separator : Char) (text : List Char) : cut separator text ≠ [] := by
  cases text with
  | nil => exact List.cons_ne_nil _ _
  | cons c rest =>
      unfold cut
      split
      · exact List.cons_ne_nil _ _
      · split <;> exact List.cons_ne_nil _ _

theorem cut_cons_of_ne {separator c : Char} (other : c ≠ separator) (rest : List Char) :
    ∃ piece others, cut separator rest = piece :: others ∧
      cut separator (c :: rest) = (c :: piece) :: others := by
  obtain ⟨piece, others, same⟩ := List.exists_cons_of_ne_nil (cut_ne_nil separator rest)
  refine ⟨piece, others, same, ?_⟩
  rw [cut, if_neg other, same]

theorem cut_of_not_mem {separator : Char} {piece : List Char} (whole : separator ∉ piece) :
    cut separator piece = [piece] := by
  induction piece with
  | nil => rfl
  | cons c rest ih =>
      obtain ⟨other, later⟩ := not_or.mp (mt List.mem_cons.mpr whole)
      rw [cut, if_neg (Ne.symm other), ih later]

theorem cut_append {separator : Char} {piece : List Char} (whole : separator ∉ piece)
    (rest : List Char) :
    cut separator (piece ++ separator :: rest) = piece :: cut separator rest := by
  induction piece with
  | nil => rw [List.nil_append, cut, if_pos rfl]
  | cons c others ih =>
      obtain ⟨other, later⟩ := not_or.mp (mt List.mem_cons.mpr whole)
      rw [List.cons_append, cut, if_neg (Ne.symm other), ih later]

/-- Pieces with separators between them are cut apart again. -/
theorem cut_intercalate {separator : Char} {list : List (List Char)} (some : list ≠ [])
    (whole : ∀ piece ∈ list, separator ∉ piece) :
    cut separator ([separator].intercalate list) = list := by
  induction list with
  | nil => exact absurd rfl some
  | cons piece rest ih =>
      obtain ⟨here, later⟩ := List.forall_mem_cons.mp whole
      cases rest with
      | nil => rw [List.intercalate_singleton, cut_of_not_mem here]
      | cons next others =>
          rw [List.intercalate_cons_cons, List.append_assoc, List.singleton_append, cut_append here,
            ih (List.cons_ne_nil _ _) later]

theorem pieces_intercalate (separator : Char) {list : List String} (some : list ≠ [])
    (whole : ∀ piece ∈ list, separator ∉ piece.toList) :
    pieces separator ((String.singleton separator).intercalate list) = list := by
  have none : list.map String.toList ≠ [] := mt List.map_eq_nil_iff.mp some
  have each : ∀ piece ∈ list.map String.toList, separator ∉ piece := List.forall_mem_map.mpr whole
  unfold pieces
  rw [String.toList_intercalate, String.toList_singleton, cut_intercalate none each, List.map_map]
  exact (List.map_congr_left fun piece _ => String.ofList_toList).trans (List.map_id list)

/-- Where separators stay what they are and nothing becomes one, the pieces are the same. -/
theorem cut_map {separator : Char} {change : Char → Char}
    (keeps : ∀ c, change c = separator ↔ c = separator) (text : List Char) :
    cut separator (text.map change) = (cut separator text).map (List.map change) := by
  induction text with
  | nil => rfl
  | cons c rest ih =>
      by_cases ends : c = separator
      · rw [List.map_cons, cut, cut, if_pos ((keeps c).mpr ends), if_pos ends, ih]
        rfl
      · obtain ⟨piece, others, same, longer⟩ := cut_cons_of_ne ends rest
        rw [List.map_cons, cut, if_neg (mt (keeps c).mp ends), ih, same, longer]
        rfl

/-- A text that neither begins nor ends with white space is trimmed. -/
theorem trim_of_ends {text : List Char} (first : ∀ c ∈ text.head?, isSpace c = false)
    (last : ∀ c ∈ text.getLast?, isSpace c = false) : trim text = text := by
  have kept {text : List Char} (solid : ∀ c ∈ text.head?, isSpace c = false) :
      text.dropWhile isSpace = text := by
    cases text with
    | nil => rfl
    | cons c rest => exact List.dropWhile_cons_of_neg (by simp [solid c rfl])
  have backwards : ∀ c ∈ text.reverse.head?, isSpace c = false := by rwa [List.head?_reverse]
  unfold trim
  rw [kept first, kept backwards, List.reverse_reverse]

/-- Where white space stays what it is and nothing becomes white space, the same is trimmed. -/
theorem trim_map {change : Char → Char} (keeps : ∀ c, isSpace (change c) = isSpace c)
    (text : List Char) : trim (text.map change) = (trim text).map change := by
  have same : isSpace ∘ change = isSpace := funext keeps
  unfold trim
  rw [List.dropWhile_map, same, ← List.map_reverse, List.dropWhile_map, same, ← List.map_reverse]

end Text

end TaggedConfig
