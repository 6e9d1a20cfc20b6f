import TaggedConfig.Proofs.Json.Scalars

/-!
# Values written as JSON and read back

Both forms of a value have the same lexemes.  The reader takes one after the other, and is then behind
the value, whatever it had read before.
-/

namespace TaggedConfig

open Json

namespace Value

mutual

/-- The lexemes of a value, without any white space. -/
def lexemes : Value → List (List Char)
  | .sequence items => ['['] :: itemLexemes items ++ [[']']]
  | .mapping entries => ['\x7b'] :: entryLexemes entries ++ [['\x7d']]
  | .null => ["null".toList]
  | .bool value => [(if value then "true" else "false").toList]
  | .integer value => [(toString value.toInt).toList]
  | .float value => [(Json.float value).toList]
  | .string text => [(Json.string text).toList]

def itemLexemes : List Value → List (List Char)
  | [] => []
  | [item] => item.lexemes
  | item :: rest => item.lexemes ++ [','] :: itemLexemes rest

def entryLexemes : List (String × Value) → List (List Char)
  | [] => []
  | [(key, value)] => (Json.string key).toList :: [':'] :: value.lexemes
  | (key, value) :: rest =>
      (Json.string key).toList :: [':'] :: value.lexemes ++ [','] :: entryLexemes rest

end

/-- All numbers with a fraction, at any depth, are finite. -/
inductive AllFinite : Value → Prop
  | null : AllFinite .null
  | bool (value : Bool) : AllFinite (.bool value)
  | integer (value : Int64) : AllFinite (.integer value)
  | float {value : Binary64} (finite : value.isFinite = true) : AllFinite (.float value)
  | string (text : String) : AllFinite (.string text)
  | sequence {items : List Value} (each : ∀ item ∈ items, AllFinite item) :
      AllFinite (.sequence items)
  | mapping {entries : List (String × Value)} (values : ∀ entry ∈ entries, AllFinite entry.2) :
      AllFinite (.mapping entries)

mutual

/-- The compact form has nothing but the lexemes. -/
theorem flatten_lexemes (value : Value) : value.lexemes.flatten = value.toJson.toList := by
  match value with
  | .sequence items => simp [lexemes, toJson, flatten_itemLexemes items]
  | .mapping entries => simp [lexemes, toJson, flatten_entryLexemes entries]
  | .null | .bool _ | .integer _ | .float _ | .string _ => simp [lexemes, toJson]

theorem flatten_itemLexemes (items : List Value) :
    (itemLexemes items).flatten = (itemsToJson items).toList := by
  match items with
  | [] => simp [itemLexemes, itemsToJson]
  | [item] => simp [itemLexemes, itemsToJson, flatten_lexemes item]
  | item :: next :: rest =>
      simp [itemLexemes, itemsToJson, flatten_lexemes item, flatten_itemLexemes (next :: rest)]

theorem flatten_entryLexemes (entries : List (String × Value)) :
    (entryLexemes entries).flatten = (entriesToJson entries).toList := by
  match entries with
  | [] => simp [entryLexemes, entriesToJson]
  | [(key, value)] => simp [entryLexemes, entriesToJson, flatten_lexemes value]
  | (key, value) :: next :: rest =>
      simp [entryLexemes, entriesToJson, flatten_lexemes value, flatten_entryLexemes (next :: rest)]

end

theorem isBare_of_isNumeric {c : Char} (numeric : Yaml.Scalar.isNumeric c = true) :
    isBare c = true := by
  cases bare : isBare c with
  | true => rfl
  | false =>
      simp only [isBare, isSpace, isMark, List.contains_eq_mem, List.mem_cons, List.not_mem_nil,
        Bool.and_eq_false_iff, Bool.not_eq_false', decide_eq_true_eq, or_false, bne_eq_false_iff_eq]
        at bare
      rcases bare with ((rfl | rfl | rfl | rfl) | rfl | rfl | rfl | rfl | rfl | rfl) | rfl
      all_goals cases numeric

theorem spaced_number {number text : List Char} {negative : Bool} {others : List (List Char)}
    (isUnsigned : Yaml.Scalar.IsUnsigned number) (ends : EndsBare text) (rest : Spaced others text) :
    Spaced (Yaml.Scalar.signed negative number :: others)
      (Yaml.Scalar.signed negative number ++ text) :=
  .word (isUnsigned.signed_ne_nil negative)
    (fun c found => isBare_of_isNumeric (isUnsigned.numeric_signed negative c found)) ends rest

theorem spaced_word {word text : List Char} {others : List (List Char)} (some : word ≠ [])
    (bare : word.all isBare = true) (ends : EndsBare text) (rest : Spaced others text) :
    Spaced ([word] ++ others) (word ++ text) :=
  .word some (List.all_eq_true.mp bare) ends rest

theorem spaced_float (value : Binary64) {text : List Char} {others : List (List Char)}
    (ends : EndsBare text) (rest : Spaced others text) :
    Spaced ((Json.float value).toList :: others) ((Json.float value).toList ++ text) := by
  unfold Json.float
  split
  · rename_i finite
    obtain ⟨significand, exponent, magnitude⟩ := Binary.exists_magnitude finite
    rw [Yaml.Scalar.render_finite magnitude]
    exact spaced_number (Yaml.Scalar.unsigned_isUnsigned _ _).1 ends rest
  · exact spaced_word (by simp) rfl ends rest

theorem spaced_string (string : String) {text : List Char} {others : List (List Char)}
    (rest : Spaced others text) :
    Spaced ((Json.string string).toList :: others) ((Json.string string).toList ++ text) := by
  rw [toList_string]
  exact .string (isInside_string string.toList) rest

mutual

/-- The compact form of a value, in front of other lexemes. -/
theorem spaced_toJson (value : Value) {text : List Char} {others : List (List Char)}
    (ends : EndsBare text) (rest : Spaced others text) :
    Spaced (value.lexemes ++ others) (value.toJson.toList ++ text) := by
  match value with
  | .null => exact spaced_word (by simp) rfl ends rest
  | .bool true => exact spaced_word (by simp) rfl ends rest
  | .bool false => exact spaced_word (by simp) rfl ends rest
  | .integer value =>
      rw [lexemes, toJson, Yaml.Scalar.toList_toString_int]
      exact spaced_number (Yaml.Scalar.isUnsigned_toDigits _) ends rest
  | .float value => exact spaced_float value ends rest
  | .string text => exact spaced_string text rest
  | .sequence items =>
      have closed : Spaced ([']'] :: others) (']' :: text) := .mark rfl rest
      have inner := spaced_itemsToJson items (endsBare_cons rfl text) closed
      simpa [lexemes, toJson] using Spaced.mark (c := '[') rfl inner
  | .mapping entries =>
      have closed : Spaced (['\x7d'] :: others) ('\x7d' :: text) := .mark rfl rest
      have inner := spaced_entriesToJson entries (endsBare_cons rfl text) closed
      simpa [lexemes, toJson] using Spaced.mark (c := '\x7b') rfl inner

theorem spaced_itemsToJson (items : List Value) {text : List Char} {others : List (List Char)}
    (ends : EndsBare text) (rest : Spaced others text) :
    Spaced (itemLexemes items ++ others) ((itemsToJson items).toList ++ text) := by
  match items with
  | [] => simpa [itemLexemes, itemsToJson] using rest
  | [item] => simpa [itemLexemes, itemsToJson] using spaced_toJson item ends rest
  | item :: next :: later =>
      have following := spaced_itemsToJson (next :: later) ends rest
      have first := spaced_toJson item (endsBare_cons rfl _) (Spaced.mark (c := ',') rfl following)
      simpa [itemLexemes, itemsToJson] using first

theorem spaced_entriesToJson (entries : List (String × Value)) {text : List Char}
    {others : List (List Char)} (ends : EndsBare text) (rest : Spaced others text) :
    Spaced (entryLexemes entries ++ others) ((entriesToJson entries).toList ++ text) := by
  match entries with
  | [] => simpa [entryLexemes, entriesToJson] using rest
  | [(key, value)] =>
      have first := spaced_string key (Spaced.mark (c := ':') rfl (spaced_toJson value ends rest))
      simpa [entryLexemes, entriesToJson] using first
  | (key, value) :: next :: later =>
      have following := spaced_entriesToJson (next :: later) ends rest
      have behind := spaced_toJson value (endsBare_cons rfl _)
        (Spaced.mark (c := ',') rfl following)
      have first := spaced_string key (Spaced.mark (c := ':') rfl behind)
      simpa [entryLexemes, entriesToJson] using first

end

/-- The beginning of a line is white space. -/
theorem spaced_lineStart (depth : Nat) {text : List Char} {others : List (List Char)}
    (rest : Spaced others text) : Spaced others ((Json.lineStart depth).toList ++ text) := by
  rw [Json.lineStart, String.toList_ofList]
  refine .spaces (List.forall_mem_cons.mpr ⟨rfl, fun c found => ?_⟩) rest
  rw [List.eq_of_mem_replicate found]
  rfl

theorem endsBare_lineStart (depth : Nat) (text : List Char) :
    EndsBare ((Json.lineStart depth).toList ++ text) := by
  rw [Json.lineStart, String.toList_ofList, List.cons_append]
  exact endsBare_cons rfl _

mutual

theorem spaced_toIndentedJson (depth : Nat) (value : Value) {text : List Char}
    {others : List (List Char)} (ends : EndsBare text) (rest : Spaced others text) :
    Spaced (value.lexemes ++ others) ((value.toIndentedJson depth).toList ++ text) := by
  match value with
  | .sequence (item :: items) =>
      have closed : Spaced ([']'] :: others) (']' :: text) := .mark rfl rest
      have inner := spaced_itemsToIndentedJson (depth + 1) (item :: items)
        (endsBare_lineStart depth _) (spaced_lineStart depth closed)
      simpa [lexemes, toIndentedJson] using Spaced.mark (c := '[') rfl inner
  | .mapping (entry :: entries) =>
      have closed : Spaced (['\x7d'] :: others) ('\x7d' :: text) := .mark rfl rest
      have inner := spaced_entriesToIndentedJson (depth + 1) (entry :: entries)
        (endsBare_lineStart depth _) (spaced_lineStart depth closed)
      simpa [lexemes, toIndentedJson] using Spaced.mark (c := '\x7b') rfl inner
  | .sequence [] =>
      have closed := Spaced.mark (c := ']') rfl rest
      simpa [lexemes, itemLexemes, toIndentedJson] using Spaced.mark (c := '[') rfl closed
  | .mapping [] =>
      have closed := Spaced.mark (c := '\x7d') rfl rest
      simpa [lexemes, entryLexemes, toIndentedJson] using Spaced.mark (c := '\x7b') rfl closed
  | .null => exact spaced_toJson .null ends rest
  | .bool value => exact spaced_toJson (.bool value) ends rest
  | .integer value => exact spaced_toJson (.integer value) ends rest
  | .float value => exact spaced_toJson (.float value) ends rest
  | .string value => exact spaced_toJson (.string value) ends rest

theorem spaced_itemsToIndentedJson (depth : Nat) (items : List Value) {text : List Char}
    {others : List (List Char)} (ends : EndsBare text) (rest : Spaced others text) :
    Spaced (itemLexemes items ++ others) ((itemsToIndentedJson depth items).toList ++ text) := by
  match items with
  | [] => simpa [itemLexemes, itemsToIndentedJson] using rest
  | [item] =>
      have line := spaced_lineStart depth (spaced_toIndentedJson depth item ends rest)
      simpa [itemLexemes, itemsToIndentedJson] using line
  | item :: next :: later =>
      have following := spaced_itemsToIndentedJson depth (next :: later) ends rest
      have first := spaced_toIndentedJson depth item (endsBare_cons rfl _)
        (Spaced.mark (c := ',') rfl following)
      simpa [itemLexemes, itemsToIndentedJson] using spaced_lineStart depth first

theorem spaced_entriesToIndentedJson (depth : Nat) (entries : List (String × Value))
    {text : List Char} {others : List (List Char)} (ends : EndsBare text)
    (rest : Spaced others text) :
    Spaced (entryLexemes entries ++ others)
      ((entriesToIndentedJson depth entries).toList ++ text) := by
  match entries with
  | [] => simpa [entryLexemes, entriesToIndentedJson] using rest
  | [(key, value)] =>
      have behind := spaced_toIndentedJson depth value ends rest
      have first := spaced_string key (Spaced.mark (c := ':') rfl (Spaced.space (c := ' ') rfl behind))
      simpa [entryLexemes, entriesToIndentedJson] using spaced_lineStart depth first
  | (key, value) :: next :: later =>
      have following := spaced_entriesToIndentedJson depth (next :: later) ends rest
      have behind := spaced_toIndentedJson depth value (endsBare_cons rfl _)
        (Spaced.mark (c := ',') rfl following)
      have first := spaced_string key (Spaced.mark (c := ':') rfl (Spaced.space (c := ' ') rfl behind))
      simpa [entryLexemes, entriesToIndentedJson] using spaced_lineStart depth first

end

theorem run?_cons (reader : Reader) (lexeme : List Char) (rest : List (List Char)) :
    reader.run? (lexeme :: rest) = (reader.step? lexeme).bind (·.run? rest) := rfl

theorem scalar_or_collection {value : Value} (finite : value.AllFinite) :
    (∃ lexeme, value.lexemes = [lexeme] ∧ Json.scalar? lexeme = some value) ∨
      (∃ items, value = .sequence items) ∨ ∃ entries, value = .mapping entries := by
  match value with
  | .null => exact .inl ⟨_, rfl, rfl⟩
  | .bool true => exact .inl ⟨_, rfl, rfl⟩
  | .bool false => exact .inl ⟨_, rfl, rfl⟩
  | .integer value => exact .inl ⟨_, rfl, scalar?_integer value⟩
  | .float value =>
      cases finite with
      | float isFinite => exact .inl ⟨_, rfl, scalar?_float isFinite⟩
  | .string text => exact .inl ⟨_, rfl, scalar?_string text⟩
  | .sequence items => exact .inr (.inl ⟨items, rfl⟩)
  | .mapping entries => exact .inr (.inr ⟨entries, rfl⟩)

/-- A value does not begin like the end of a sequence. -/
theorem lexemes_begin {value : Value} (finite : value.AllFinite) :
    ∃ first rest, value.lexemes = first :: rest ∧ first ≠ [']'] := by
  rcases scalar_or_collection finite with ⟨lexeme, same, read⟩ | ⟨items, rfl⟩ | ⟨entries, rfl⟩
  · refine ⟨lexeme, [], same, ?_⟩
    rintro rfl
    cases read
  · exact ⟨['['], _, rfl, by decide⟩
  · exact ⟨['\x7b'], _, rfl, by decide⟩

theorem itemLexemes_begin {item : Value} (finite : item.AllFinite) (items : List Value) :
    ∃ first rest, itemLexemes (item :: items) = first :: rest ∧ first ≠ [']'] := by
  obtain ⟨first, rest, same, noEnd⟩ := lexemes_begin finite
  cases items with
  | nil => exact ⟨first, rest, same, noEnd⟩
  | cons next later =>
      refine ⟨first, rest ++ [','] :: itemLexemes (next :: later), ?_, noEnd⟩
      rw [itemLexemes, same, List.cons_append]
      exact nofun

theorem entryLexemes_begin (key : String) (value : Value) (entries : List (String × Value)) :
    ∃ rest, entryLexemes ((key, value) :: entries) = (Json.string key).toList :: rest := by
  cases entries with
  | nil => exact ⟨_, rfl⟩
  | cons next later => exact ⟨_, rfl⟩

theorem run?_scalar {value : Value} {lexeme : List Char} (read : Json.scalar? lexeme = some value)
    (outer : List Begun) (rest : List (List Char)) :
    (Reader.value outer).run? (lexeme :: rest) = (Reader.done value outer).run? rest := by
  have step : Reader.open? outer lexeme = some (.done value outer) := by
    unfold Reader.open?
    split
    · cases read
    · cases read
    · rw [read, Option.map_some]
  have first : (Reader.value outer).step? lexeme = some (.done value outer) := step
  rw [run?_cons, first, Option.bind_some]

/-- Behind an opening bracket, items are read as they are behind a comma. -/
theorem run?_firstItem {first : List Char} (noEnd : first ≠ [']']) (outer : List Begun)
    (rest : List (List Char)) :
    (Reader.firstItem outer).run? (first :: rest) =
      (Reader.value (.items [] :: outer)).run? (first :: rest) := by
  have step : (Reader.firstItem outer).step? first =
      (Reader.value (.items [] :: outer)).step? first := if_neg noEnd
  rw [run?_cons, run?_cons, step]

theorem run?_key (before : List (String × Value)) (key : String) (outer : List Begun)
    (rest : List (List Char)) :
    (Reader.nextKey before outer).run? ((Json.string key).toList :: [':'] :: rest) =
      (Reader.value (.entries before key :: outer)).run? rest := by
  have step : (Reader.nextKey before outer).step? (Json.string key).toList =
      some (.colon before key outer) := congrArg (Option.map _) (string?_string key)
  rw [run?_cons, step, Option.bind_some]
  rfl

/-- Behind an opening brace, a key is read as it is behind a comma. -/
theorem run?_firstKey (key : String) (outer : List Begun) (rest : List (List Char)) :
    (Reader.firstKey outer).run? ((Json.string key).toList :: rest) =
      (Reader.nextKey [] outer).run? ((Json.string key).toList :: rest) := by
  have noEnd : (Json.string key).toList ≠ ['\x7d'] := by
    rw [toList_string]
    exact fun same => absurd (List.cons.inj same).1 (by decide)
  have step : (Reader.firstKey outer).step? (Json.string key).toList =
      (Reader.nextKey [] outer).step? (Json.string key).toList := if_neg noEnd
  rw [run?_cons, run?_cons, step]

mutual

/-- The reader goes over a value, whatever collections it is in. -/
theorem run?_lexemes {value : Value} (finite : value.AllFinite) (outer : List Begun)
    (rest : List (List Char)) :
    (Reader.value outer).run? (value.lexemes ++ rest) = (Reader.done value outer).run? rest := by
  match value with
  | .sequence [] => rfl
  | .sequence (item :: items) =>
      cases finite with
      | sequence each =>
          have read := run?_itemLexemes each (by simp) [] outer rest
          obtain ⟨first, others, same, noEnd⟩ :=
            itemLexemes_begin (each item List.mem_cons_self) items
          have opening : (Reader.value outer).step? ['['] = some (.firstItem outer) := rfl
          rw [same, List.cons_append] at read
          rw [lexemes, same, List.append_assoc, List.cons_append, List.cons_append, run?_cons,
            opening, Option.bind_some, List.singleton_append, run?_firstItem noEnd, read]
          rfl
  | .mapping [] => rfl
  | .mapping ((key, value) :: entries) =>
      cases finite with
      | mapping values =>
          have read := run?_entryLexemes values (by simp) [] outer rest
          obtain ⟨others, same⟩ := entryLexemes_begin key value entries
          have opening : (Reader.value outer).step? ['\x7b'] = some (.firstKey outer) := rfl
          rw [same, List.cons_append] at read
          rw [lexemes, same, List.append_assoc, List.cons_append, List.cons_append, run?_cons,
            opening, Option.bind_some, List.singleton_append, run?_firstKey, read]
          rfl
  | .null => rfl
  | .bool true => rfl
  | .bool false => rfl
  | .integer value => exact run?_scalar (scalar?_integer value) outer rest
  | .float value =>
      cases finite with
      | float isFinite => exact run?_scalar (scalar?_float isFinite) outer rest
  | .string text => exact run?_scalar (scalar?_string text) outer rest

theorem run?_itemLexemes {items : List Value} (finite : ∀ item ∈ items, item.AllFinite)
    (some : items ≠ []) (before : List Value) (outer : List Begun) (rest : List (List Char)) :
    (Reader.value (.items before :: outer)).run? (itemLexemes items ++ [']'] :: rest) =
      (Reader.done (.sequence (before ++ items)) outer).run? rest := by
  match items with
  | [] => exact absurd rfl some
  | [item] =>
      rw [itemLexemes, run?_lexemes (finite item List.mem_cons_self)]
      rfl
  | item :: next :: later =>
      obtain ⟨here, others⟩ := List.forall_mem_cons.mp finite
      have comma : (Reader.done item (.items before :: outer)).step? [','] =
          Option.some (.value (.items (before ++ [item]) :: outer)) := rfl
      rw [itemLexemes, List.append_assoc, run?_lexemes here, List.cons_append, run?_cons, comma,
        Option.bind_some, run?_itemLexemes others (by simp), List.append_assoc,
        List.singleton_append]
      exact nofun

theorem run?_entryLexemes {entries : List (String × Value)}
    (finite : ∀ entry ∈ entries, entry.2.AllFinite) (some : entries ≠ [])
    (before : List (String × Value)) (outer : List Begun) (rest : List (List Char)) :
    (Reader.nextKey before outer).run? (entryLexemes entries ++ ['\x7d'] :: rest) =
      (Reader.done (.mapping (before ++ entries)) outer).run? rest := by
  match entries with
  | [] => exact absurd rfl some
  | [(key, value)] =>
      rw [entryLexemes, List.cons_append, List.cons_append, run?_key,
        run?_lexemes (finite _ List.mem_cons_self)]
      rfl
  | (key, value) :: next :: later =>
      obtain ⟨here, others⟩ := List.forall_mem_cons.mp finite
      have comma : (Reader.done value (.entries before key :: outer)).step? [','] =
          Option.some (.nextKey (before ++ [(key, value)]) outer) := rfl
      rw [entryLexemes]
      · simp only [List.cons_append, List.append_assoc]
        rw [run?_key, run?_lexemes here, run?_cons, comma, Option.bind_some,
          run?_entryLexemes others (by simp), List.append_assoc, List.singleton_append]
      · exact nofun

end

end Value

namespace Json

/-- However the lexemes of a value are spaced, the reader gets the value. -/
theorem read?_of_spaced {value : Value} (finite : value.AllFinite) {text : String}
    (spaced : Spaced value.lexemes text.toList) : read? text = some value := by
  have run := Value.run?_lexemes finite [] []
  rw [List.append_nil] at run
  unfold read?
  rw [lexemes_of_spaced spaced, run]
  rfl

end Json

/--
For every value whose numbers with a fraction are all finite, both forms are JSON and are read as exactly
this value.  They have the same lexemes: the compact form nothing else, and the indented one only white
space around them.  No other such value is written as one of these two texts, in either form.  The reader
takes any number with a point or an exponent for the finite number that is nearest to it.
-/
theorem Value.json_reads_back {value : Value} (finite : value.AllFinite) :
    Json.read? value.toJson = some value ∧ Json.read? value.toPrettyJson = some value ∧
      (∃ lexemes : List (List Char), lexemes.flatten = value.toJson.toList ∧
        Json.Spaced lexemes value.toJson.toList ∧
        Json.Spaced lexemes value.toPrettyJson.toList) ∧
      (∀ other : Value, other.AllFinite → ∀ text : String,
        text = value.toJson ∨ text = value.toPrettyJson →
        text = other.toJson ∨ text = other.toPrettyJson → other = value) ∧
      ∀ (negative : Bool) (digits : List Char) (x : Binary64),
        Json.unsigned? negative digits = some (.float x) →
          ∃ decimal, Decimal.parse? digits = some decimal ∧
            x.IsNearest (if negative then -decimal.value else decimal.value) := by
  have compact (value : Value) : Spaced value.lexemes value.toJson.toList := by
    simpa using spaced_toJson value endsBare_nil .nil
  have indented (value : Value) : Spaced value.lexemes value.toPrettyJson.toList := by
    simpa [toPrettyJson] using spaced_toIndentedJson 0 value endsBare_nil .nil
  have reads {value : Value} (finite : value.AllFinite) {text : String}
      (written : text = value.toJson ∨ text = value.toPrettyJson) :
      Json.read? text = some value := by
    rcases written with rfl | rfl
    · exact read?_of_spaced finite (compact value)
    · exact read?_of_spaced finite (indented value)
  refine ⟨reads finite (.inl rfl), reads finite (.inr rfl),
    ⟨value.lexemes, flatten_lexemes value, compact value, indented value⟩, ?_,
    fun negative digits x => Json.isNearest_of_unsigned?⟩
  intro other otherFinite text here there
  exact Option.some.inj ((reads otherFinite there).symm.trans (reads finite here))

/--
Two and the number 2.0, the nearest one to its text, stay distinct, as does a negative zero; a key has a
control character, a quote, a backslash and a character beyond the first plane.
-/
theorem Value.json_reads_back_of_alike_numbers :
    let two : Binary64 := ⟨false, 4611686018427387904⟩
    let numbers : Value := .sequence [.integer 2, .float two, .float ⟨true, 0⟩]
    let value : Value := .mapping [("\x01\"\\𝄞", numbers), ("", .mapping [])]
    value.AllFinite ∧
      value.toJson = "\x7b\"\\u0001\\\"\\\\𝄞\":[2,2.0,-0.0],\"\":\x7b\x7d\x7d" ∧
      Json.read? value.toJson = some value ∧ Json.read? value.toPrettyJson = some value ∧
      ∃ decimal, Decimal.parse? "2.0".toList = some decimal ∧ two.IsNearest decimal.value := by
  intro two numbers value
  have each : numbers.AllFinite := by
    refine .sequence fun item found => ?_
    simp only [List.mem_cons, List.not_mem_nil, or_false] at found
    rcases found with rfl | rfl | rfl
    · exact .integer 2
    · exact .float (by decide)
    · exact .float (by decide)
  have finite : value.AllFinite := by
    refine .mapping fun entry found => ?_
    rcases List.mem_pair.mp found with rfl | rfl
    · exact each
    · exact .mapping nofun
  obtain ⟨compact, indented, -, -, nearest⟩ := Value.json_reads_back finite
  have written : Json.float two = "2.0" := by decide +kernel
  have read : Json.scalar? "2.0".toList = some (.float two) := written ▸ scalar?_float (by decide)
  exact ⟨finite, by decide +kernel, compact, indented, nearest false "2.0".toList two read⟩

end TaggedConfig
