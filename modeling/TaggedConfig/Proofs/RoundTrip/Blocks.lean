import TaggedConfig.Proofs.RoundTrip.Keys

/-!
# The tokens of a written value

A value is written as the tokens that it consists of: from every scene in front of a written value, a
lexer comes behind it with these tokens.
-/

namespace TaggedConfig

open Yaml Yaml.Writing

namespace Value

mutual

def tokens (indentless : Bool) : Value → List TokenKind
  | .sequence [] => [.flowSequenceStart, .flowSequenceEnd]
  | .mapping [] => [.flowMappingStart, .flowMappingEnd]
  | .sequence (item :: rest) =>
      if indentless then itemTokens (item :: rest)
      else .blockSequenceStart :: itemTokens (item :: rest) ++ [.blockEnd]
  | .mapping (entry :: rest) => .blockMappingStart :: entryTokens (entry :: rest) ++ [.blockEnd]
  | scalar => scalar.scalar?.toList.map fun (text, style) => .scalar text.toList style

def itemTokens : List Value → List TokenKind
  | [] => []
  | item :: rest => .blockEntry :: item.tokens false ++ itemTokens rest

def entryTokens : List (String × Value) → List TokenKind
  | [] => []
  | (key, value) :: rest =>
      [.key, .scalar key.toList (styleOf key), .value] ++ value.tokens (isSimpleKey key)
        ++ entryTokens rest

end

variable {value : Value} {text : String} {style : ScalarStyle} {indent : Nat}

theorem tokens_of_scalar (written : value.scalar? = some (text, style)) (indentless : Bool) :
    value.tokens indentless = [.scalar text.toList style] := by
  cases value with
  | sequence items => cases written
  | mapping entries => cases written
  | _ =>
      cases written
      rfl

theorem toBlock_of_scalar (written : value.scalar? = some (text, style)) (indent : Nat) :
    value.toBlock indent = endLine (styled style indent text.toList) := by
  cases value with
  | sequence items => cases written
  | mapping entries => cases written
  | string text =>
      cases written
      exact congrArg endLine (string_eq_styled indent text)
  | bool value =>
      cases written
      cases value with
      | true => rfl
      | false => rfl
  | _ =>
      cases written
      rfl

/-- Behind a key, only the lines of a string are indented deeper. -/
theorem itemsToBlock_eq (item : Value) (rest : List Value) :
    itemsToBlock false indent (item :: rest) =
      indentation indent ++ itemsToBlock true indent (item :: rest) := by
  unfold itemsToBlock lineStart
  simp

theorem entriesToBlock_eq (entry : String × Value) (rest : List (String × Value)) :
    entriesToBlock false indent (entry :: rest) =
      indentation indent ++ entriesToBlock true indent (entry :: rest) := by
  unfold entriesToBlock lineStart
  simp

theorem startsToken_cons {c : Char} {rest : List Char} (printable : isPrintable c = true)
    (noGap : isEdgeGap c = false) (noComment : c ≠ '#') : StartsToken (c :: rest) := by
  obtain ⟨noSpace, unbroken⟩ := Bool.or_eq_false_iff.mp noGap
  rintro _ ⟨⟩
  refine ⟨isBlank_eq_false printable (beq_eq_false_iff_ne.mp noSpace), unbroken, noComment, ?_⟩
  rintro rfl
  cases printable

/-- A written scalar begins with a token. -/
theorem startsToken_styled {text : List Char} (allows : Allows style text) (indent : Nat)
    (tail : List Char) : StartsToken (styled style indent text ++ tail) := by
  cases style with
  | plain =>
      have plain := isPlainText_of_allowsPlain allows.2 allows.1
      obtain ⟨c, rest, rfl⟩ := List.exists_cons_of_ne_nil plain.some
      obtain ⟨begins, -⟩ := Bool.or_eq_false_iff.mp plain.noMarkup
      obtain ⟨noIndicator, -⟩ := of_beginsLikeMarkup_eq_false begins
      refine startsToken_cons (plain.printable c List.mem_cons_self) (plain.first c rfl) ?_
      rintro rfl
      cases noIndicator
  | singleQuoted => exact startsToken_cons rfl rfl (by decide)
  | doubleQuoted => exact startsToken_cons rfl rfl (by decide)
  | literal => exact startsToken_cons rfl rfl (by decide)
  | folded => cases allows

theorem exists_endLine_append (text tail : List Char) :
    ∃ later, endLine text ++ tail = text ++ later := by
  unfold endLine
  split
  · exact ⟨tail, rfl⟩
  · exact ⟨'\n' :: tail, List.append_assoc text ['\n'] tail⟩

theorem startsToken_items (item : Value) (rest : List Value) (indent : Nat) (tail : List Char) :
    StartsToken (itemsToBlock true indent (item :: rest) ++ tail) :=
  startsToken_cons rfl rfl (by decide)

theorem startsToken_entries (entry : String × Value) (rest : List (String × Value)) (indent : Nat)
    (tail : List Char) : StartsToken (entriesToBlock true indent (entry :: rest) ++ tail) := by
  obtain ⟨key, value⟩ := entry
  unfold entriesToBlock lineStart
  dsimp only
  rw [if_pos rfl, List.nil_append, List.append_assoc]
  split
  · rw [string_eq_styled, List.append_assoc]
    exact startsToken_styled (allows_styleOf key) _ _
  · exact startsToken_cons rfl rfl (by decide)

theorem startsToken_toBlock (value : Value) (indent : Nat) (tail : List Char) :
    StartsToken (value.toBlock indent ++ tail) := by
  cases written : value.scalar? with
  | some scalar =>
      obtain ⟨text, style⟩ := scalar
      obtain ⟨later, same⟩ := exists_endLine_append (styled style indent text.toList) tail
      rw [toBlock_of_scalar written, same]
      exact startsToken_styled (allows_scalar written) indent later
  | none =>
      cases value with
      | sequence items =>
          cases items with
          | nil => exact startsToken_cons rfl rfl (by decide)
          | cons item rest => exact startsToken_items item rest indent tail
      | mapping entries =>
          cases entries with
          | nil => exact startsToken_cons rfl rfl (by decide)
          | cons entry rest => exact startsToken_entries entry rest indent tail
      | _ => cases written

def isLeaf : Value → Bool
  | .sequence (_ :: _) | .mapping (_ :: _) => false
  | _ => true

theorem toEntryValue_of_isLeaf (leaf : value.isLeaf = true) (indent : Nat) :
    value.toEntryValue indent = ' ' :: value.toBlock (indent + 2) := by
  cases value with
  | sequence items =>
      cases items with
      | nil => rfl
      | cons item rest => cases leaf
  | mapping entries =>
      cases entries with
      | nil => rfl
      | cons entry rest => cases leaf
  | _ => rfl

variable {scene : Scene} {content : List Char} {depth : Nat}

theorem leads_leaf (leaf : value.isLeaf = true) (deeper : scene.indent < scene.column)
    (indented : scene.indent.toNat + 2 = indent)
    (written : scene.text = value.toBlock indent ++ (indentation depth ++ content))
    (starts : StartsToken content)
    (shallow : (depth : Int) ≤ scene.indent ∨ content = [] ∧ depth = 0) (indentless : Bool) :
    scene.Leads (scene.behind content depth true (value.tokens indentless)).closed := by
  cases scalar : value.scalar? with
  | some form =>
      obtain ⟨text, style⟩ := form
      rw [toBlock_of_scalar scalar] at written
      rw [tokens_of_scalar scalar]
      exact Scene.leads_scalar deeper (allows_scalar scalar) (.inr indented) written starts shallow
  | none =>
      have closer {c : Char} (bracket : c = ']' ∨ c = '\x7d') : StartsToken [c] := by
        rcases bracket with rfl | rfl
        · exact startsToken_cons rfl rfl (by decide)
        · exact startsToken_cons rfl rfl (by decide)
      cases value with
      | sequence items =>
          cases items with
          | nil =>
              exact Scene.leads_flow deeper (fun lexer rest found => (Lexer.dispatch_bracket found).1 rfl)
                (fun lexer rest found => (Lexer.dispatch_bracket found).2.2.1 rfl) written starts
                  (closer (.inl rfl))
          | cons item rest => cases leaf
      | mapping entries =>
          cases entries with
          | nil =>
              exact Scene.leads_flow deeper (fun lexer rest found => (Lexer.dispatch_bracket found).2.1 rfl)
                (fun lexer rest found => (Lexer.dispatch_bracket found).2.2.2 rfl) written starts
                  (closer (.inr rfl))
          | cons entry rest => cases leaf
      | _ => cases scalar

end Value

namespace Yaml

/--
A text that stands at a column is read as some tokens, with the start of the collection that it
belongs to if it is the first row of it.
-/
def ReadsAsRows (opens : TokenKind) (column : Nat) (text : List Char) (kinds : List TokenKind) :
    Prop :=
  ∀ ⦃scene : Scene⦄ ⦃content : List Char⦄ ⦃depth : Nat⦄, scene.column = column →
    scene.indent ≤ scene.column → scene.keyAllowed = true →
    scene.text = text ++ (indentation depth ++ content) → StartsToken content → depth ≤ column →
    scene.Leads ((scene.opened opens).behind content depth true kinds).closed

def ReadsAsBlock (column : Nat) (text : List Char) (kinds : List TokenKind) : Prop :=
  ∀ ⦃scene : Scene⦄ ⦃content : List Char⦄ ⦃depth : Nat⦄, scene.column = column + 2 →
    scene.indent = column → scene.keyAllowed = true →
    scene.text = text ++ (indentation depth ++ content) → StartsToken content → depth ≤ column →
    scene.Leads (scene.behind content depth true kinds).closed

variable {opens : TokenKind} {column : Nat} {text others : List Char} {kinds more : List TokenKind}

/-- A collection that begins with a token ends in front of one that is not as deep. -/
theorem Scene.closed_opened {scene : Scene} {content : List Char} {depth : Nat}
    (deeper : scene.indent < scene.column) (shallow : depth < scene.column) :
    ((scene.opened opens).behind content depth true kinds).closed =
      (scene.behind content depth true (opens :: kinds ++ [.blockEnd])).closed := by
  have outside : (depth : Int) < scene.column := Int.ofNat_lt.mpr shallow
  unfold Scene.opened
  rw [if_neg deeper.not_ge]
  unfold Scene.closed Scene.closedTo Scene.behind
  dsimp only
  rw [Lexer.closing_of_lt outside]
  simp [List.replicate_succ]

theorem ReadsAsRows.append (first : ReadsAsRows opens column text kinds)
    (later : ReadsAsRows opens column others more) (starts : ∀ tail, StartsToken (others ++ tail)) :
    ReadsAsRows opens column (text ++ (indentation column ++ others)) (kinds ++ more) := by
  intro scene content depth place inside allowed written startsNext shallow
  rw [List.append_assoc, List.append_assoc] at written
  have before := first place inside allowed written (starts _) (Nat.le_refl column)
  rw [Scene.closed_behind_opened inside place.le] at before
  have same : (scene.opened opens).indent = column :=
    (Scene.indent_opened inside).trans (congrArg Nat.cast place)
  let middle := (scene.opened opens).behind (others ++ (indentation depth ++ content)) column true
    kinds
  have stays : middle.opened opens = middle := Scene.opened_of_eq same
  have behind : middle.Leads _ := later rfl same.le rfl rfl startsNext shallow
  rw [stays, Scene.behind_behind] at behind
  exact before.trans behind

theorem ReadsAsRows.block (rows : ReadsAsRows opens (column + 2) text kinds) :
    ReadsAsBlock column text (opens :: kinds ++ [.blockEnd]) := by
  intro scene content depth place inside allowed written starts shallow
  have read := rows place (by omega) allowed written starts (by omega)
  rwa [Scene.closed_opened (by omega) (by omega)] at read

theorem ReadsAsBlock.behind_sign {sign : Char} {kind : TokenKind}
    (block : ReadsAsBlock column text kinds) (begins : ∀ tail, StartsToken (text ++ tail))
    {scene : Scene} (place : scene.column = column) (inside : scene.indent ≤ scene.column)
    (read : ∀ lexer : Lexer, lexer.Stands scene →
      lexer.dispatch = .ok (((lexer.openHere opens).allowKey true).pushSign kind 1))
    {content : List Char} {depth : Nat}
    (written : scene.text = sign :: ' ' :: (text ++ (indentation depth ++ content)))
    (starts : StartsToken content) (shallow : depth ≤ column) :
    scene.Leads ((scene.opened opens).behind content depth true (kind :: kinds)).closed := by
  have before := Scene.leads_sign read inside written (begins _)
  have same : (scene.opened opens).indent = column :=
    (Scene.indent_opened inside).trans (congrArg Nat.cast place)
  have behind : Scene.Leads ((scene.opened opens).behind (text ++ (indentation depth ++ content))
      (scene.column + 2) true [kind]) _ :=
    block (congrArg (· + 2) place) same rfl rfl starts shallow
  rw [Scene.behind_behind] at behind
  exact before.trans behind

theorem ReadsAsBlock.item (block : ReadsAsBlock column text kinds)
    (begins : ∀ tail, StartsToken (text ++ tail)) :
    ReadsAsRows .blockSequenceStart column ('-' :: ' ' :: text) (.blockEntry :: kinds) := by
  intro scene content depth place inside allowed written starts shallow
  refine block.behind_sign begins place inside (fun lexer stands => ?_) written starts shallow
  rw [Lexer.dispatch_dash (stands.text.trans written), Lexer.fetchBlockEntry_eq stands allowed]

theorem ReadsAsBlock.key (block : ReadsAsBlock column text kinds)
    (begins : ∀ tail, StartsToken (text ++ tail)) :
    ReadsAsRows .blockMappingStart column ('?' :: ' ' :: text) (.key :: kinds) := by
  intro scene content depth place inside allowed written starts shallow
  refine block.behind_sign begins place inside (fun lexer stands => ?_) written starts shallow
  rw [Lexer.dispatch_question (stands.text.trans written), Lexer.fetchKey_eq stands allowed]

theorem ReadsAsBlock.value (block : ReadsAsBlock column text kinds)
    (begins : ∀ tail, StartsToken (text ++ tail)) :
    ReadsAsRows .blockMappingStart column (':' :: ' ' :: text) (.value :: kinds) := by
  intro scene content depth place inside allowed written starts shallow
  refine block.behind_sign begins place inside (fun lexer stands => ?_) written starts shallow
  rw [Lexer.dispatch_colon (stands.text.trans written) rfl, Lexer.fetchValue_eq stands allowed]

end Yaml

namespace Value

variable {key : String} {column : Nat}

theorem readsAsRows_item {item : Value}
    (block : ReadsAsBlock column (item.toBlock (column + 2)) (item.tokens false)) :
    ReadsAsRows .blockSequenceStart column (itemsToBlock true column [item]) (itemTokens [item]) := by
  have row := block.item (startsToken_toBlock item (column + 2))
  have text : itemsToBlock true column [item] = '-' :: ' ' :: item.toBlock (column + 2) := by
    unfold itemsToBlock lineStart
    simp [itemsToBlock]
  have kinds : itemTokens [item] = .blockEntry :: item.tokens false := by
    unfold itemTokens
    simp [itemTokens]
  rw [text, kinds]
  exact row

theorem readsAsRows_longEntry {value : Value} (long : isSimpleKey key = false)
    (block : ReadsAsBlock column (value.toBlock (column + 2)) (value.tokens false)) :
    ReadsAsRows .blockMappingStart column (entriesToBlock true column [(key, value)])
      (entryTokens [(key, value)]) := by
  have keyBlock : ReadsAsBlock column (toBlock (column + 2) (.string key))
      [.scalar key.toList (styleOf key)] := by
    intro scene content depth place inside allowed written starts shallow
    exact leads_leaf rfl (by omega) (by omega) written starts (.inl (by omega)) false
  have row := (keyBlock.key (startsToken_toBlock _ _)).append
    (block.value (startsToken_toBlock value _)) fun tail => startsToken_cons rfl rfl (by decide)
  have text : entriesToBlock true column [(key, value)] =
      '?' :: ' ' :: toBlock (column + 2) (.string key) ++
        (indentation column ++ ':' :: ' ' :: value.toBlock (column + 2)) := by
    unfold entriesToBlock lineStart
    rw [long]
    simp [entriesToBlock, toBlock, leafToBlock]
  have kinds : entryTokens [(key, value)] = .key :: [.scalar key.toList (styleOf key)] ++
      .value :: value.tokens false := by
    unfold entryTokens
    rw [long]
    simp [entryTokens]
  rw [text, kinds]
  exact row

theorem bytes_toList (text : String) : Mark.bytes text.toList = text.utf8ByteSize := by
  have bytes (chars : List Char) : Mark.bytes chars = String.utf8Len chars := by
    induction chars with
    | nil => rfl
    | cons c rest ih =>
        rw [bytes_cons, ih, String.utf8Len_cons, Nat.add_comm]
  rw [bytes, ← String.utf8ByteSize_ofList, String.ofList_toList]

theorem isShortKey_of_isSimpleKey (short : isSimpleKey key = true) :
    Scene.IsShortKey (styleOf key) key.toList := by
  unfold isSimpleKey at short
  rw [Bool.and_eq_true, decide_eq_true_eq, Bool.not_eq_true', List.any_eq_false] at short
  obtain ⟨fits, unbroken⟩ := short
  have noBreak : ∀ c ∈ key.toList, isBreak c = false := fun c found => by simpa using unbroken c found
  have allows := allows_styleOf key
  refine ⟨?_, allows, noBreak, ?_⟩
  · intro literal
    rw [literal] at allows
    cases noBreak '\n' allows.2
  · rw [bytes_toList]
    exact fits

section ShortKeys

variable {value : Value} (short : isSimpleKey key = true)

include short

theorem entriesToBlock_short :
    entriesToBlock true column [(key, value)] =
      styled (styleOf key) (column + 2) key.toList ++ ':' :: value.toEntryValue column := by
  unfold entriesToBlock lineStart
  rw [short]
  simp [entriesToBlock, string_eq_styled]

theorem entryTokens_short : entryTokens [(key, value)] =
    [.key, .scalar key.toList (styleOf key), .value] ++ value.tokens true := by
  unfold entryTokens
  rw [short]
  simp [entryTokens]

theorem readsAsRows_leafEntry (leaf : value.isLeaf = true) :
    ReadsAsRows .blockMappingStart column (entriesToBlock true column [(key, value)])
      (entryTokens [(key, value)]) := by
  rw [entriesToBlock_short short, entryTokens_short short, toEntryValue_of_isLeaf leaf]
  intro scene content depth place inside allowed written starts shallow
  rw [List.append_assoc] at written
  have before := Scene.leads_key_space (isShortKey_of_isSimpleKey short) (by omega) allowed inside
    written (startsToken_toBlock value _ _)
  have same : (scene.opened .blockMappingStart).indent = column :=
    (Scene.indent_opened inside).trans (congrArg Nat.cast place)
  let middle := (scene.opened .blockMappingStart).behind
    (value.toBlock (column + 2) ++ (indentation depth ++ content))
    (scene.column + (styled (styleOf key) (column + 2) key.toList).length + 2) false
    [.key, .scalar key.toList (styleOf key), .value]
  have further : column < scene.column + (styled (styleOf key) (column + 2) key.toList).length + 2 :=
    by omega
  have deeper : middle.indent < middle.column := same.trans_lt (Int.ofNat_lt.mpr further)
  have indented : middle.indent.toNat + 2 = column + 2 :=
    congrArg (fun indent : Int => indent.toNat + 2) same
  have behind : middle.Leads _ :=
    leads_leaf leaf deeper indented rfl starts (.inl ((Int.ofNat_le.mpr shallow).trans_eq same.symm)) true
  rw [Scene.behind_behind] at behind
  exact before.trans behind

/-- The items of a sequence stand right below its key. -/
theorem readsAsRows_itemsEntry {item : Value} {rest : List Value}
    (rows : ReadsAsRows .blockSequenceStart column (itemsToBlock true column (item :: rest))
      (itemTokens (item :: rest))) :
    ReadsAsRows .blockMappingStart column
      (entriesToBlock true column [(key, .sequence (item :: rest))])
      (entryTokens [(key, .sequence (item :: rest))]) := by
  have behindKey : toEntryValue column (.sequence (item :: rest)) =
      '\n' :: (indentation column ++ itemsToBlock true column (item :: rest)) := by
    rw [← itemsToBlock_eq]
    rfl
  rw [entriesToBlock_short short, entryTokens_short short, behindKey]
  intro scene content depth place inside allowed written starts shallow
  rw [List.append_assoc, List.cons_append, List.cons_append, List.append_assoc] at written
  have before := Scene.leads_key_line (isShortKey_of_isSimpleKey short) (by omega) allowed inside
    written (startsToken_items item rest column _) place.le
  have same : (scene.opened .blockMappingStart).indent = column :=
    (Scene.indent_opened inside).trans (congrArg Nat.cast place)
  let middle := (scene.opened .blockMappingStart).behind
    (itemsToBlock true column (item :: rest) ++ (indentation depth ++ content)) column true
    [.key, .scalar key.toList (styleOf key), .value]
  have stays : middle.opened .blockSequenceStart = middle := Scene.opened_of_eq same
  have behind : middle.Leads _ := rows rfl same.le rfl rfl starts shallow
  rw [stays, Scene.behind_behind] at behind
  exact before.trans behind

/-- The entries of a mapping are indented below its key. -/
theorem readsAsRows_entriesEntry {entry : String × Value} {rest : List (String × Value)}
    (rows : ReadsAsRows .blockMappingStart (column + 2)
      (entriesToBlock true (column + 2) (entry :: rest)) (entryTokens (entry :: rest))) :
    ReadsAsRows .blockMappingStart column
      (entriesToBlock true column [(key, .mapping (entry :: rest))])
      (entryTokens [(key, .mapping (entry :: rest))]) := by
  have behindKey : toEntryValue column (.mapping (entry :: rest)) =
      '\n' :: (indentation (column + 2) ++ entriesToBlock true (column + 2) (entry :: rest)) := by
    rw [← entriesToBlock_eq]
    rfl
  rw [entriesToBlock_short short, entryTokens_short short, behindKey]
  intro scene content depth place inside allowed written starts shallow
  rw [List.append_assoc, List.cons_append, List.cons_append, List.append_assoc] at written
  have before := Scene.leads_key_line (isShortKey_of_isSimpleKey short) (by omega) allowed inside
    written (startsToken_entries entry rest (column + 2) _) (by omega)
  have same : (scene.opened .blockMappingStart).indent = column :=
    (Scene.indent_opened inside).trans (congrArg Nat.cast place)
  let middle := (scene.opened .blockMappingStart).behind
    (entriesToBlock true (column + 2) (entry :: rest) ++ (indentation depth ++ content)) (column + 2)
    true [.key, .scalar key.toList (styleOf key), .value]
  have behind : middle.Leads _ := rows.block rfl same rfl rfl starts shallow
  rw [Scene.behind_behind] at behind
  exact before.trans behind

end ShortKeys

theorem readsAsRows_items_cons {item next : Value} {rest : List Value}
    (first : ReadsAsRows .blockSequenceStart column (itemsToBlock true column [item])
      (itemTokens [item]))
    (later : ReadsAsRows .blockSequenceStart column (itemsToBlock true column (next :: rest))
      (itemTokens (next :: rest))) :
    ReadsAsRows .blockSequenceStart column (itemsToBlock true column (item :: next :: rest))
      (itemTokens (item :: next :: rest)) := by
  have text : itemsToBlock true column (item :: next :: rest) = itemsToBlock true column [item] ++
      (indentation column ++ itemsToBlock true column (next :: rest)) := by
    rw [← itemsToBlock_eq]
    conv_lhs => unfold itemsToBlock
    simp [itemsToBlock]
  have kinds : itemTokens (item :: next :: rest) = itemTokens [item] ++ itemTokens (next :: rest) := by
    conv_lhs => unfold itemTokens
    simp [itemTokens]
  rw [text, kinds]
  exact first.append later (startsToken_items next rest column)

theorem readsAsRows_entries_cons {entry next : String × Value} {rest : List (String × Value)}
    (first : ReadsAsRows .blockMappingStart column (entriesToBlock true column [entry])
      (entryTokens [entry]))
    (later : ReadsAsRows .blockMappingStart column (entriesToBlock true column (next :: rest))
      (entryTokens (next :: rest))) :
    ReadsAsRows .blockMappingStart column (entriesToBlock true column (entry :: next :: rest))
      (entryTokens (entry :: next :: rest)) := by
  have text : entriesToBlock true column (entry :: next :: rest) =
      entriesToBlock true column [entry] ++
        (indentation column ++ entriesToBlock true column (next :: rest)) := by
    rw [← entriesToBlock_eq]
    conv_lhs => unfold entriesToBlock
    simp [entriesToBlock]
  have kinds : entryTokens (entry :: next :: rest) =
      entryTokens [entry] ++ entryTokens (next :: rest) := by
    conv_lhs => unfold entryTokens
    simp [entryTokens]
  rw [text, kinds]
  exact first.append later (startsToken_entries next rest column)

mutual

theorem readsAsBlock (value : Value) (column : Nat) :
    ReadsAsBlock column (value.toBlock (column + 2)) (value.tokens false) := by
  match value with
  | .sequence (item :: rest) => exact (readsAsRows_items (item :: rest) (column + 2) nofun).block
  | .mapping (entry :: rest) => exact (readsAsRows_entries (entry :: rest) (column + 2) nofun).block
  | .sequence [] | .mapping [] | .null | .bool _ | .integer _ | .float _ | .string _ =>
      intro scene content depth place inside allowed written starts shallow
      exact leads_leaf rfl (by omega) (by omega) written starts (.inl (by omega)) false

theorem readsAsRows_shortEntry (value : Value) (key : String) (column : Nat)
    (short : isSimpleKey key = true) :
    ReadsAsRows .blockMappingStart column (entriesToBlock true column [(key, value)])
      (entryTokens [(key, value)]) := by
  match value with
  | .sequence (item :: rest) =>
      exact readsAsRows_itemsEntry short (readsAsRows_items (item :: rest) column nofun)
  | .mapping (entry :: rest) =>
      exact readsAsRows_entriesEntry short (readsAsRows_entries (entry :: rest) (column + 2) nofun)
  | .sequence [] | .mapping [] | .null | .bool _ | .integer _ | .float _ | .string _ =>
      exact readsAsRows_leafEntry short rfl

theorem readsAsRows_items (items : List Value) (column : Nat) (some : items ≠ []) :
    ReadsAsRows .blockSequenceStart column (itemsToBlock true column items) (itemTokens items) := by
  match items with
  | [] => contradiction
  | [item] => exact readsAsRows_item (readsAsBlock item column)
  | item :: next :: rest =>
      exact readsAsRows_items_cons (readsAsRows_item (readsAsBlock item column))
        (readsAsRows_items (next :: rest) column nofun)

theorem readsAsRows_entries (entries : List (String × Value)) (column : Nat) (some : entries ≠ []) :
    ReadsAsRows .blockMappingStart column (entriesToBlock true column entries)
      (entryTokens entries) := by
  match entries with
  | [] => contradiction
  | (key, value) :: rest =>
      have first : ReadsAsRows .blockMappingStart column (entriesToBlock true column [(key, value)])
          (entryTokens [(key, value)]) := by
        cases short : isSimpleKey key with
        | true => exact readsAsRows_shortEntry value key column short
        | false => exact readsAsRows_longEntry short (readsAsBlock value column)
      match rest with
      | [] => exact first
      | next :: rest =>
          exact readsAsRows_entries_cons first (readsAsRows_entries (next :: rest) column nofun)

end

end Value

end TaggedConfig
