import TaggedConfig.Config.Summary
import TaggedConfig.Proofs.DottedPaths.Pieces
import TaggedConfig.Proofs.RoundTrip.Scalars

/-!
# Summaries as boxes

A summary has a header, a row for each leaf of the configuration in the order of the document, and a
footer.  The header and the footer are as wide as the box, and so is a row unless the text of its leaf
is too long.  All of this is about lines, so that no key and no string may hold a line break.
-/

namespace TaggedConfig

def Value.IsLeaf : Value → Prop
  | .mapping (_ :: _) => False
  | _ => True

/-- A leaf is reached through mappings, by at least one key. -/
inductive Entries.HasLeaf : Entries Value → List String → Value → Prop
  | here {entries : Entries Value} {key : String} {value : Value} (found : (key, value) ∈ entries)
      (leaf : value.IsLeaf) : HasLeaf entries [key] value
  | inside {entries inner : Entries Value} {key : String} {keys : List String} {value : Value}
      (found : (key, .mapping inner) ∈ entries) (deeper : HasLeaf inner keys value) :
      HasLeaf entries (key :: keys) value

mutual

def Value.keyedLeaves : Value → List (List String × Value)
  | .mapping (entry :: entries) => keyedLeavesOfEntries (entry :: entries)
  | .mapping [] => [([], .mapping [])]
  | .null => [([], .null)]
  | .bool value => [([], .bool value)]
  | .integer value => [([], .integer value)]
  | .float value => [([], .float value)]
  | .string text => [([], .string text)]
  | .sequence items => [([], .sequence items)]

/-- The leaves of entries in order, each behind the keys that lead to it. -/
def Value.keyedLeavesOfEntries : List (String × Value) → List (List String × Value)
  | [] => []
  | (key, value) :: rest =>
      value.keyedLeaves.map (fun leaf => (key :: leaf.1, leaf.2)) ++ keyedLeavesOfEntries rest

end

namespace Value

theorem keyedLeaves_of_isLeaf {value : Value} (leaf : value.IsLeaf) :
    value.keyedLeaves = [([], value)] := by
  unfold keyedLeaves
  split
  · exact leaf.elim
  all_goals rfl

theorem exists_of_not_isLeaf {value : Value} (inner : ¬value.IsLeaf) :
    ∃ entries, value = .mapping entries ∧ value.keyedLeaves = keyedLeavesOfEntries entries := by
  match value with
  | .mapping (entry :: entries) => exact ⟨entry :: entries, rfl, by rw [keyedLeaves]⟩
  | .mapping [] => exact absurd trivial inner
  | .null | .bool _ | .integer _ | .float _ | .string _ | .sequence _ => exact absurd trivial inner

theorem mem_keyedLeavesOfEntries_iff {entries : List (String × Value)} {keys : List String}
    {leaf : Value} :
    (keys, leaf) ∈ keyedLeavesOfEntries entries ↔
      ∃ entry ∈ entries, ∃ rest, keys = entry.1 :: rest ∧ (rest, leaf) ∈ entry.2.keyedLeaves := by
  induction entries with
  | nil => simp [keyedLeavesOfEntries]
  | cons entry others ih =>
      rw [keyedLeavesOfEntries, List.mem_append, ih, List.exists_mem_cons_iff, List.mem_map]
      refine or_congr_left ⟨?_, ?_⟩
      · rintro ⟨⟨rest, value⟩, found, same⟩
        cases same
        exact ⟨rest, rfl, found⟩
      · rintro ⟨rest, rfl, found⟩
        exact ⟨(rest, leaf), found, rfl⟩

/-- Exactly the leaves that are reached through mappings are listed. -/
theorem mem_keyedLeavesOfEntries {entries : List (String × Value)} {keys : List String}
    {leaf : Value} :
    (keys, leaf) ∈ keyedLeavesOfEntries entries ↔ Entries.HasLeaf entries keys leaf := by
  constructor
  · intro listed
    induction keys generalizing entries with
    | nil =>
        obtain ⟨entry, -, rest, same, -⟩ := mem_keyedLeavesOfEntries_iff.mp listed
        cases same
    | cons key keys ih =>
        obtain ⟨⟨name, value⟩, found, rest, same, below⟩ := mem_keyedLeavesOfEntries_iff.mp listed
        obtain ⟨rfl, rfl⟩ := List.cons.inj same
        by_cases isLeaf : value.IsLeaf
        · rw [keyedLeaves_of_isLeaf isLeaf, List.mem_singleton] at below
          cases below
          exact .here found isLeaf
        · obtain ⟨inner, rfl, leaves⟩ := exists_of_not_isLeaf isLeaf
          rw [leaves] at below
          exact .inside found (ih below)
  · intro reached
    induction reached with
    | here found isLeaf =>
        refine mem_keyedLeavesOfEntries_iff.mpr ⟨_, found, [], rfl, ?_⟩
        rw [keyedLeaves_of_isLeaf isLeaf]
        exact List.mem_singleton_self _
    | @inside entries inner key keys value found deeper ih =>
        refine mem_keyedLeavesOfEntries_iff.mpr ⟨_, found, keys, rfl, ?_⟩
        cases inner with
        | nil => cases ih
        | cons entry others =>
            rw [keyedLeaves]
            exact ih

end Value

def dottedKeys (keys : List String) : String := ".".intercalate keys

theorem dottedKeys_append (before key : String) (keys : List String) :
    dottedKeys ((before ++ key) :: keys) = before ++ dottedKeys (key :: keys) := by
  apply String.toList_injective
  cases keys with
  | nil => simp [dottedKeys]
  | cons next rest => simp [dottedKeys, String.toList_intercalate]

theorem dottedKeys_cons (key next : String) (keys : List String) :
    dottedKeys (key :: next :: keys) = key ++ "." ++ dottedKeys (next :: keys) := by
  apply String.toList_injective
  simp [dottedKeys, String.toList_intercalate]

theorem unbroken_dottedKeys {keys : List String} (each : ∀ key ∈ keys, '\n' ∉ key.toList) :
    '\n' ∉ (dottedKeys keys).toList := by
  induction keys with
  | nil => decide
  | cons key rest ih =>
      obtain ⟨here, later⟩ := List.forall_mem_cons.mp each
      cases rest with
      | nil => simpa [dottedKeys] using here
      | cons next others =>
          rw [dottedKeys_cons]
          simpa using ⟨here, ih later⟩

namespace Summary

mutual

/-- The leaves under a key have the key in front of those that lead to them. -/
theorem leaves_eq (key : String) (value : Value) :
    leaves key value =
      value.keyedLeaves.map fun leaf => (dottedKeys (key :: leaf.1), leaf.2) := by
  match value with
  | .mapping (entry :: entries) =>
      rw [leaves, Value.keyedLeaves, leavesOfEntries_eq (key ++ ".") (entry :: entries)]
      refine List.map_congr_left fun leaf found => ?_
      obtain ⟨keys, value⟩ := leaf
      obtain ⟨_, -, rest, rfl, -⟩ := Value.mem_keyedLeavesOfEntries_iff.mp found
      exact congrArg (·, value) (dottedKeys_cons key _ rest).symm
  | .mapping [] => simp [leaves, Value.keyedLeaves, dottedKeys]
  | .null => simp [leaves, Value.keyedLeaves, dottedKeys]
  | .bool value => simp [leaves, Value.keyedLeaves, dottedKeys]
  | .integer value => simp [leaves, Value.keyedLeaves, dottedKeys]
  | .float value => simp [leaves, Value.keyedLeaves, dottedKeys]
  | .string text => simp [leaves, Value.keyedLeaves, dottedKeys]
  | .sequence items => simp [leaves, Value.keyedLeaves, dottedKeys]

theorem leavesOfEntries_eq (before : String) (entries : List (String × Value)) :
    leavesOfEntries before entries =
      (Value.keyedLeavesOfEntries entries).map fun leaf =>
        (before ++ dottedKeys leaf.1, leaf.2) := by
  match entries with
  | [] => rfl
  | (key, value) :: rest =>
      rw [leavesOfEntries, Value.keyedLeavesOfEntries, List.map_append, List.map_map,
        leaves_eq (before ++ key) value, leavesOfEntries_eq before rest]
      congr 1
      exact List.map_congr_left fun leaf _ => congrArg (·, leaf.2) (dottedKeys_append before key _)

end

end Summary

/-- No key and no string, at any depth, has a line break. -/
inductive Value.OnOneLine : Value → Prop
  | null : OnOneLine .null
  | bool (value : Bool) : OnOneLine (.bool value)
  | integer (value : Int64) : OnOneLine (.integer value)
  | float (value : Binary64) : OnOneLine (.float value)
  | string {text : String} (unbroken : '\n' ∉ text.toList) : OnOneLine (.string text)
  | sequence {items : List Value} (each : ∀ item ∈ items, OnOneLine item) :
      OnOneLine (.sequence items)
  | mapping {entries : List (String × Value)} (keys : ∀ entry ∈ entries, '\n' ∉ entry.1.toList)
      (values : ∀ entry ∈ entries, OnOneLine entry.2) : OnOneLine (.mapping entries)

/-- Numbers are written without line breaks. -/
theorem unbroken_of_numeric {text : List Char}
    (numeric : ∀ c ∈ text, Yaml.Scalar.isNumeric c = true) : '\n' ∉ text :=
  fun found => by cases numeric _ found

theorem FloatStyle.unbroken_render (x : Binary64) : '\n' ∉ (plain.render x).toList := by
  cases size : x.magnitude with
  | finite significand exponent =>
      rw [Yaml.Scalar.render_finite size]
      exact unbroken_of_numeric ((Yaml.Scalar.unsigned_isUnsigned _ _).1.numeric_signed _)
  | infinite =>
      unfold render
      rw [size]
      cases x.negative with
      | true => decide
      | false => decide
  | nan =>
      have noBreak : '\n' ∉ plain.nan.toList := by decide
      unfold render
      rw [size]
      exact noBreak

namespace Value

mutual

theorem unbroken_display {value : Value} (oneLine : value.OnOneLine) :
    '\n' ∉ value.display.toList := by
  match value with
  | .null => decide
  | .bool true => decide
  | .bool false => decide
  | .integer value => exact unbroken_of_numeric (Yaml.Scalar.numeric_toString value.toInt)
  | .float value => exact FloatStyle.unbroken_render value
  | .string text =>
      cases oneLine with
      | string unbroken => exact unbroken
  | .sequence items =>
      cases oneLine with
      | sequence each =>
          rw [display]
          simpa using unbroken_displayItems each
  | .mapping entries =>
      cases oneLine with
      | mapping keys values =>
          rw [display]
          simpa using unbroken_displayEntries keys values

theorem unbroken_displayItems {items : List Value} (each : ∀ item ∈ items, item.OnOneLine) :
    '\n' ∉ (displayItems items).toList := by
  match items with
  | [] => decide
  | [item] => exact unbroken_display (each item List.mem_cons_self)
  | item :: next :: rest =>
      obtain ⟨first, others⟩ := List.forall_mem_cons.mp each
      rw [displayItems]
      · simpa using ⟨unbroken_display first, unbroken_displayItems others⟩
      · exact nofun

theorem unbroken_displayEntries {entries : List (String × Value)}
    (keys : ∀ entry ∈ entries, '\n' ∉ entry.1.toList)
    (values : ∀ entry ∈ entries, entry.2.OnOneLine) :
    '\n' ∉ (displayEntries entries).toList := by
  match entries with
  | [] => decide
  | [(key, value)] =>
      rw [displayEntries]
      simpa using ⟨keys _ List.mem_cons_self, unbroken_display (values _ List.mem_cons_self)⟩
  | (key, value) :: next :: rest =>
      obtain ⟨keyHere, keysLater⟩ := List.forall_mem_cons.mp keys
      obtain ⟨valueHere, valuesLater⟩ := List.forall_mem_cons.mp values
      rw [displayEntries]
      · simpa using ⟨keyHere, unbroken_display valueHere,
          unbroken_displayEntries keysLater valuesLater⟩
      · exact nofun

end

/-- The leaves of a mapping on one line are on one line, and so are the keys that lead to them. -/
theorem oneLine_of_hasLeaf {entries : Entries Value} {keys : List String} {leaf : Value}
    (reached : entries.HasLeaf keys leaf) (oneLine : (Value.mapping entries).OnOneLine) :
    leaf.OnOneLine ∧ ∀ key ∈ keys, '\n' ∉ key.toList := by
  induction reached with
  | here found isLeaf =>
      cases oneLine with
      | mapping keys values =>
          exact ⟨values _ found, List.forall_mem_singleton.mpr (keys _ found)⟩
  | inside found deeper ih =>
      cases oneLine with
      | mapping keys values =>
          obtain ⟨leafHere, keysBelow⟩ := ih (values _ found)
          exact ⟨leafHere, List.forall_mem_cons.mpr ⟨keys _ found, keysBelow⟩⟩

end Value

namespace Text

/-- A line break ends the first line. -/
theorem pieces_append {separator : Char} {piece : String} (whole : separator ∉ piece.toList)
    (rest : String) :
    pieces separator (piece ++ (String.singleton separator ++ rest)) =
      piece :: pieces separator rest := by
  unfold pieces
  rw [String.toList_append, String.toList_append, String.toList_singleton, List.singleton_append,
    cut_append whole, List.map_cons, String.ofList_toList]

theorem pieces_of_not_mem {separator : Char} {piece : String} (whole : separator ∉ piece.toList) :
    pieces separator piece = [piece] := by
  unfold pieces
  rw [cut_of_not_mem whole, List.map_singleton, String.ofList_toList]

end Text

namespace Summary

def spaces (count : Nat) : String := String.ofList (List.replicate count ' ')

def dashes (count : Nat) : String := String.ofList (List.replicate count '-')

theorem length_fill (c : Char) (width : Nat) (text : String) :
    (fill c width text).length = max text.length width := by
  simp only [fill, String.length_append, String.length_ofList, List.length_replicate]
  omega

theorem not_mem_fill {separator c : Char} (other : separator ≠ c) (width : Nat) {text : String}
    (whole : separator ∉ text.toList) : separator ∉ (fill c width text).toList := by
  simp only [fill, String.toList_append, String.toList_ofList, List.mem_append]
  rintro (found | found)
  · exact whole found
  · exact other (List.eq_of_mem_replicate found)

def content (keys : List String) (value : Value) : String :=
  "| " ++ dottedKeys keys ++ spaces (25 - (dottedKeys keys).length) ++ ": " ++ value.display

/-- A line is the row of a leaf in a box. -/
structure IsRow (width : Nat) (keys : List String) (value : Value) (line : String) : Prop where
  /-- Behind the content there is nothing but spaces and the border. -/
  text : ∃ count, line = content keys value ++ spaces count ++ "|"
  /-- The line is as wide as the box unless its content is too long. -/
  length : line.length = max width ((content keys value).length + 1)

def rowLine (width : Nat) (leaf : List String × Value) : String :=
  fill ' ' (width - 1) (content leaf.1 leaf.2) ++ "|"

theorem row_eq (width : Nat) (leaf : List String × Value) :
    row width (dottedKeys leaf.1) leaf.2 = rowLine width leaf ++ String.singleton '\n' := by
  have border : "|\n" = "|" ++ String.singleton '\n' := by decide
  have padded : fill ' ' keyWidth (dottedKeys leaf.1) =
      dottedKeys leaf.1 ++ spaces (25 - (dottedKeys leaf.1).length) := rfl
  unfold row rowLine content
  rw [border, padded]
  simp only [String.append_assoc]

theorem isRow_rowLine {width : Nat} (wide : 0 < width) (leaf : List String × Value) :
    IsRow width leaf.1 leaf.2 (rowLine width leaf) := by
  constructor
  · exact ⟨_, rfl⟩
  · have border : "|".length = 1 := rfl
    unfold rowLine
    rw [String.length_append, length_fill, border]
    omega

theorem unbroken_rowLine (width : Nat) {leaf : List String × Value} (oneLine : leaf.2.OnOneLine)
    (keys : ∀ key ∈ leaf.1, '\n' ∉ key.toList) : '\n' ∉ (rowLine width leaf).toList := by
  have dotted := unbroken_dottedKeys keys
  have inside : '\n' ∉ (content leaf.1 leaf.2).toList := by
    simp [content, spaces, dotted, Value.unbroken_display oneLine]
  unfold rowLine
  rw [String.toList_append, List.mem_append]
  rintro (found | found)
  · exact not_mem_fill (by decide) _ inside found
  · exact absurd found (by decide)

/-- Rows on one line each are cut apart again, and what follows them is left. -/
theorem pieces_rows (width : Nat) {leaves : List (List String × Value)}
    (unbroken : ∀ leaf ∈ leaves, '\n' ∉ (rowLine width leaf).toList) {last : String}
    (whole : '\n' ∉ last.toList) :
    Text.pieces '\n'
        (String.join (leaves.map fun leaf => row width (dottedKeys leaf.1) leaf.2) ++ last) =
      leaves.map (rowLine width) ++ [last] := by
  induction leaves with
  | nil => simpa using Text.pieces_of_not_mem whole
  | cons leaf rest ih =>
      obtain ⟨here, later⟩ := List.forall_mem_cons.mp unbroken
      rw [List.map_cons, String.join_cons, row_eq, String.append_assoc, String.append_assoc,
        Text.pieces_append here, ih later, List.map_cons, List.cons_append]

def headerLine (width : Nat) : String := "+--[ Configuration ]" ++ dashes (width - 21) ++ "+"

def footerLine (width : Nat) : String := "+" ++ dashes (width - 2) ++ "+"

theorem header_eq (width : Nat) : header width = headerLine width ++ String.singleton '\n' := by
  have border : "+\n" = "+" ++ String.singleton '\n' := by decide
  have filled : fill '-' (width - 1) "+--[ Configuration ]" =
      "+--[ Configuration ]" ++ dashes (width - 21) := by
    rw [← Nat.sub_sub width 1 20]
    rfl
  unfold header headerLine
  rw [border, filled, String.append_assoc, String.append_assoc, String.append_assoc]

theorem footer_eq (width : Nat) : footer width = footerLine width := by
  have filled : fill '-' (width - 1) "+" = "+" ++ dashes (width - 2) := by
    rw [← Nat.sub_sub width 1 1]
    rfl
  unfold footer footerLine
  rw [filled]

theorem length_dashes (count : Nat) : (dashes count).length = count := by
  rw [dashes, String.length_ofList, List.length_replicate]

theorem unbroken_dashes (count : Nat) : '\n' ∉ (dashes count).toList := by
  rw [dashes, String.toList_ofList]
  exact fun found => absurd (List.eq_of_mem_replicate found) (by decide)

/-- Dashes between corners are on one line. -/
theorem unbroken_border {left right : String} (first : '\n' ∉ left.toList)
    (last : '\n' ∉ right.toList) (count : Nat) :
    '\n' ∉ (left ++ dashes count ++ right).toList := by
  rw [String.toList_append, String.toList_append]
  exact List.not_mem_append (List.not_mem_append first (unbroken_dashes count)) last

/-- The lines of a box are its header, its rows and its footer. -/
theorem pieces_render (values : Entries Value) (width : Nat)
    (unbroken : ∀ leaf ∈ Value.keyedLeavesOfEntries values,
      '\n' ∉ (rowLine (max width 33) leaf).toList) :
    Text.pieces '\n' (render values width) =
      headerLine (max width 33) ::
        ((Value.keyedLeavesOfEntries values).map (rowLine (max width 33)) ++
          [footerLine (max width 33)]) := by
  have leaves : leavesOfEntries "" values =
      (Value.keyedLeavesOfEntries values).map fun leaf => (dottedKeys leaf.1, leaf.2) := by
    simp only [leavesOfEntries_eq, String.empty_append]
  have least : leastWidth = 33 := rfl
  have title : '\n' ∉ "+--[ Configuration ]".toList := by decide
  have corner : '\n' ∉ "+".toList := by decide
  have header : '\n' ∉ (headerLine (max width 33)).toList := unbroken_border title corner _
  have footer : '\n' ∉ (footerLine (max width 33)).toList := unbroken_border corner corner _
  unfold render
  dsimp only
  rw [least, leaves, List.map_map, header_eq, footer_eq, String.append_assoc, String.append_assoc,
    Text.pieces_append header]
  exact congrArg _ (pieces_rows _ unbroken footer)

end Summary

namespace Config

/--
The summary of a configuration without line breaks in its keys and strings, for every width: a header
and a footer as wide as the box, and between them a row for each leaf in the order of the document.
The box has the width that is asked for, or 33 characters if that is more.
-/
theorem summary_is_box (config : Config) (width : Nat) (oneLine : config.toValue.OnOneLine) :
    let full := max width 33
    let leaves := Value.keyedLeavesOfEntries config.values
    (∀ keys value, (keys, value) ∈ leaves ↔ Entries.HasLeaf config.values keys value) ∧
      ∃ (header footer : String) (rows : List String),
        Text.pieces '\n' (config.summary width) = header :: (rows ++ [footer]) ∧
        header = "+--[ Configuration ]" ++ Summary.dashes (full - 21) ++ "+" ∧
        header.length = full ∧
        footer = "+" ++ Summary.dashes (full - 2) ++ "+" ∧
        footer.length = full ∧
        List.Forall₂ (fun leaf line => Summary.IsRow full leaf.1 leaf.2 line) leaves rows := by
  intro full leaves
  have reached (keys : List String) (value : Value) :
      (keys, value) ∈ leaves ↔ Entries.HasLeaf config.values keys value :=
    Value.mem_keyedLeavesOfEntries
  have wide : 33 ≤ full := Nat.le_max_right width 33
  have unbroken : ∀ leaf ∈ leaves, '\n' ∉ (Summary.rowLine full leaf).toList := by
    intro leaf found
    obtain ⟨leafHere, keys⟩ := Value.oneLine_of_hasLeaf ((reached leaf.1 leaf.2).mp found) oneLine
    exact Summary.unbroken_rowLine full leafHere keys
  refine ⟨reached, _, _, leaves.map (Summary.rowLine full), ?_, rfl, ?_, rfl, ?_, ?_⟩
  · exact Summary.pieces_render config.values width unbroken
  · have title : "+--[ Configuration ]".length = 20 := rfl
    have corner : "+".length = 1 := rfl
    rw [String.length_append, String.length_append, Summary.length_dashes, title, corner]
    omega
  · have corner : "+".length = 1 := rfl
    rw [String.length_append, String.length_append, Summary.length_dashes, corner]
    omega
  · rw [List.forall₂_map_right_iff, List.forall₂_same]
    exact fun leaf _ => Summary.isRow_rowLine (by omega) leaf

/-- A box that is too narrow for one of its two leaves, of which the other is an empty mapping. -/
theorem summary_is_box_of_long_value :
    let long : Value := .string "öffentlich und gut lesbar"
    let config : Config := ⟨[("größe", .mapping [("tief", long)]), ("leer", .mapping [])], none⟩
    config.toValue.OnOneLine ∧
      ∃ (header footer : String) (rows : List String),
        Text.pieces '\n' (config.summary 10) = header :: (rows ++ [footer]) ∧
        header.length = 33 ∧ footer.length = 33 ∧
        List.Forall₂ (fun leaf line => Summary.IsRow 33 leaf.1 leaf.2 line)
          [(["größe", "tief"], long), (["leer"], .mapping [])] rows := by
  intro long config
  have inner : (Value.mapping [("tief", long)]).OnOneLine :=
    .mapping (List.forall_mem_singleton.mpr (by decide))
      (List.forall_mem_singleton.mpr (.string (by decide)))
  have oneLine : config.toValue.OnOneLine := by
    refine .mapping ?_ ?_
    · intro entry found
      rcases List.mem_pair.mp found with rfl | rfl
      · decide
      · decide
    · intro entry found
      rcases List.mem_pair.mp found with rfl | rfl
      · exact inner
      · exact .mapping nofun nofun
  obtain ⟨-, header, footer, rows, lines, -, wide, -, alsoWide, each⟩ :=
    summary_is_box config 10 oneLine
  exact ⟨oneLine, header, footer, rows, lines, wide, alsoWide, each⟩

end Config

end TaggedConfig
