import TaggedConfig.Proofs.DottedPaths.Pieces
import TaggedConfig.Proofs.Number.Digits

/-!
# Dotted paths and trails

A trail leads from a value to one inside it, through keys as they are and through positions.  Its
steps with full stops between them are a path, and the value at that path is the one that the trail
leads to, whatever other keys there are.  The other way round, a value at a path is reached by a trail
with one step for each piece of the path.
-/

namespace TaggedConfig

def Segment.text : Segment → String
  | .key text => text
  | .index position => toString position

/-- A step that a piece of a path can stand for. -/
def Segment.Suits : Segment → String → Prop
  | .key text, piece =>
      text = piece ∨ text = replaceChar '-' '_' piece ∨ text = replaceChar '_' '-' piece
  | .index position, piece => position? piece = some position

/-- The steps of a trail with full stops between them. -/
def Trail.dotted (trail : Trail) : String := ".".intercalate (trail.map Segment.text)

/-- A trail leads from a value to another one. -/
inductive Value.Leads : Value → Trail → Value → Prop
  | here (value : Value) : Leads value [] value
  | key {entries : Entries Value} {key : String} {child value : Value} {rest : Trail}
      (found : entries.get? key = some child) (inside : Leads child rest value) :
      Leads (.mapping entries) (.key key :: rest) value
  | index {items : List Value} {position : Nat} {child value : Value} {rest : Trail}
      (found : items[position]? = some child) (inside : Leads child rest value) :
      Leads (.sequence items) (.index position :: rest) value

/-- A position in decimal digits names itself. -/
theorem position?_toString (position : Nat) : position? (toString position) = some position := by
  have digits : ∀ c ∈ Nat.toDigits 10 position, c.isDigit = true := fun _ => isDigit_of_mem_toDigits
  have read := natInBase?_toDigits position
  unfold position?
  rw [toList_toString_nat]
  generalize Nat.toDigits 10 position = text at digits read
  split
  · cases digits '+' List.mem_cons_self
  · exact read

/-- A key as it is written is tried first. -/
theorem Value.child?_key {entries : Entries Value} {key : String} {child : Value}
    (found : entries.get? key = some child) : (Value.mapping entries).child? key = some child := by
  change (spellings key).findSome? entries.get? = some child
  rw [spellings, List.findSome?_cons, found]

theorem Value.child?_index {items : List Value} {position : Nat} {child : Value}
    (found : items[position]? = some child) :
    (Value.sequence items).child? (toString position) = some child := by
  unfold child?
  rw [position?_toString]
  exact found

/-- One step inwards is a key or a position that the piece can stand for. -/
theorem Value.exists_step {value child : Value} {piece : String}
    (found : value.child? piece = some child) :
    ∃ segment : Segment, segment.Suits piece ∧
      ∀ rest inner, Leads child rest inner → Leads value (segment :: rest) inner := by
  unfold child? at found
  split at found
  · obtain ⟨key, tried, isChild⟩ := List.exists_of_findSome?_eq_some found
    exact ⟨.key key, by simpa [spellings, Segment.Suits] using tried, fun _ _ => .key isChild⟩
  · obtain ⟨position, named, isChild⟩ := Option.bind_eq_some_iff.mp found
    exact ⟨.index position, named, fun _ _ => .index isChild⟩
  · cases found

theorem Value.Leads.foldlM_child? {value inner : Value} {trail : Trail}
    (leads : value.Leads trail inner) :
    (trail.map Segment.text).foldlM child? value = some inner := by
  induction leads with
  | here => rfl
  | key found inside ih =>
      rw [List.map_cons, List.foldlM_cons]
      exact Option.bind_eq_some_iff.mpr ⟨_, child?_key found, ih⟩
  | index found inside ih =>
      rw [List.map_cons, List.foldlM_cons]
      exact Option.bind_eq_some_iff.mpr ⟨_, child?_index found, ih⟩

theorem Value.exists_trail {value inner : Value} {pieces : List String}
    (found : pieces.foldlM child? value = some inner) :
    ∃ trail, value.Leads trail inner ∧ List.Forall₂ Segment.Suits trail pieces := by
  induction pieces generalizing value with
  | nil =>
      cases found
      exact ⟨[], .here _, .nil⟩
  | cons piece rest ih =>
      rw [List.foldlM_cons] at found
      obtain ⟨child, isChild, behind⟩ := Option.bind_eq_some_iff.mp found
      obtain ⟨segment, suits, step⟩ := exists_step isChild
      obtain ⟨trail, inside, others⟩ := ih behind
      exact ⟨segment :: trail, step trail inner inside, .cons suits others⟩

/-- A step has no full stop in its text unless it is a key that has one. -/
theorem Segment.dot_not_mem_text {segment : Segment}
    (whole : ∀ key, segment = .key key → '.' ∉ key.toList) : '.' ∉ segment.text.toList := by
  cases segment with
  | key text => exact whole text rfl
  | index position =>
      intro dot
      rw [Segment.text, toList_toString_nat] at dot
      cases isDigit_of_mem_toDigits dot

/-- A dotted path is cut into the steps of its trail. -/
theorem Trail.pieces_dotted {trail : Trail} (some : trail ≠ [])
    (whole : ∀ key, .key key ∈ trail → '.' ∉ key.toList) :
    Text.pieces '.' trail.dotted = trail.map Segment.text := by
  refine Text.pieces_intercalate '.' (mt List.map_eq_nil_iff.mp some) ?_
  refine List.forall_mem_map.mpr fun segment found => ?_
  exact Segment.dot_not_mem_text fun key same => whole key (same ▸ found)

namespace Text

/-- A path without white space at its ends. -/
def trimmed (path : String) : String := String.ofList (trim path.toList)

theorem trimmed_of_ends {path : String} (first : ∀ c ∈ path.toList.head?, isSpace c = false)
    (last : ∀ c ∈ path.toList.getLast?, isSpace c = false) : trimmed path = path := by
  unfold trimmed
  rw [trim_of_ends first last, String.ofList_toList]

end Text

namespace Config

variable {config : Config}

theorem getValue_of_empty {path : String} (none : Text.trimmed path = "") :
    config.getValue path = .ok config.toValue := by
  unfold Text.trimmed at none
  unfold getValue
  rw [none]
  rfl

/-- A path that is not empty leads to a value piece by piece, or to none. -/
theorem getValue_of_ne_empty {path : String} (some : Text.trimmed path ≠ "") :
    config.getValue path =
      match (Text.pieces '.' (Text.trimmed path)).foldlM Value.child? config.toValue with
      | .some value => .ok value
      | none => .error (.ofCause (.missingKey (Text.trimmed path))) := by
  have isSome : (Text.trimmed path).isEmpty = false := by simpa using some
  unfold Text.trimmed at isSome
  unfold getValue lookup? Text.trimmed
  dsimp only
  rw [isSome]
  generalize List.foldlM Value.child? config.toValue _ = found
  cases found with
  | some value => rfl
  | none => rfl

theorem getValue_eq_ok_iff {path : String} (some : Text.trimmed path ≠ "") {value : Value} :
    config.getValue path = .ok value ↔
      (Text.pieces '.' (Text.trimmed path)).foldlM Value.child? config.toValue = .some value := by
  rw [getValue_of_ne_empty some]
  cases (Text.pieces '.' (Text.trimmed path)).foldlM Value.child? config.toValue with
  | some found => simp
  | none => simp

/--
A trail through keys without full stops leads to the value at its dotted path, unless that path is
empty or has white space at its ends.  A value at a path that is not empty is reached by a trail with
one step for each piece: a position that the piece names, or a key that is the piece itself, or the
piece with underscores for all its hyphens, or with hyphens for all its underscores.
-/
theorem getValue_along_trails (config : Config) :
    (∀ trail value, config.toValue.Leads trail value →
        (∀ key, .key key ∈ trail → '.' ∉ key.toList) → trail.dotted ≠ "" →
        (∀ c ∈ trail.dotted.toList.head?, Text.isSpace c = false) →
        (∀ c ∈ trail.dotted.toList.getLast?, Text.isSpace c = false) →
        config.getValue trail.dotted = .ok value) ∧
      ∀ path value, Text.trimmed path ≠ "" → config.getValue path = .ok value →
        ∃ trail, config.toValue.Leads trail value ∧
          List.Forall₂ Segment.Suits trail (Text.pieces '.' (Text.trimmed path)) := by
  constructor
  · intro trail value leads whole some first last
    have trimmed := Text.trimmed_of_ends first last
    have ne : trail ≠ [] := fun none => some (none ▸ rfl)
    rw [getValue_eq_ok_iff (trimmed.symm ▸ some), trimmed, Trail.pieces_dotted ne whole]
    exact leads.foldlM_child?
  · intro path value some found
    exact Value.exists_trail ((getValue_eq_ok_iff some).mp found)

/--
A trail through an empty key, a key of digits, a position and a key that stands beside one that is
alike, and back from its path.
-/
theorem getValue_along_trails_of_misleading_keys :
    let inner : Value := .mapping [("b_c", .null), ("b-c", .bool true)]
    let config : Config := ⟨[("", .mapping [("0", .sequence [.null, inner])])], none⟩
    config.getValue ".0.1.b-c" = .ok (.bool true) ∧
      ∃ trail, config.toValue.Leads trail (.bool true) ∧
        List.Forall₂ Segment.Suits trail ["", "0", "1", "b-c"] := by
  intro inner config
  obtain ⟨inwards, back⟩ := getValue_along_trails config
  have leads : config.toValue.Leads [.key "", .key "0", .index 1, .key "b-c"] (.bool true) :=
    .key rfl (.key rfl (.index rfl (.key rfl (.here _))))
  have dotted : Trail.dotted [.key "", .key "0", .index 1, .key "b-c"] = ".0.1.b-c" := by decide
  have trimmed : Text.trimmed ".0.1.b-c" = ".0.1.b-c" := by decide
  have reached : config.getValue ".0.1.b-c" = .ok (.bool true) := by
    rw [← dotted]
    refine inwards _ _ leads (by simp) (by rw [dotted]; decide) ?_ ?_
    · rw [dotted]
      rintro c ⟨⟩
      rfl
    · rw [dotted]
      rintro c ⟨⟩
      rfl
  have pieces : Text.pieces '.' (Text.trimmed ".0.1.b-c") = ["", "0", "1", "b-c"] := by decide
  refine ⟨reached, ?_⟩
  rw [← pieces]
  exact back _ _ (by decide) reached

end Config

end TaggedConfig
