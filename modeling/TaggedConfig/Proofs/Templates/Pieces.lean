import Mathlib
import TaggedConfig.Proofs.Fallible
import TaggedConfig.Resolution
import TaggedConfig.Text.Cut

/-!
# Pieces of a template

A template is a row of pieces: ordinary characters, braces that are written twice, and placeholders.
It has a text exactly if it can be cut into pieces that have one, there is only one way to cut it, and
its text is theirs.
-/

namespace TaggedConfig

namespace MomentField

def name : MomentField → String
  | .year => "year"
  | .month => "month"
  | .day => "day"
  | .hour => "hour"
  | .minute => "minute"
  | .second => "second"
  | .microsecond => "microsecond"

theorem ofName?_eq_some_iff {text : String} {asked : MomentField} :
    ofName? text = some asked ↔ text = asked.name := by
  constructor
  · intro found
    unfold ofName? at found
    split at found <;> cases found <;> rfl
  · rintro rfl
    cases asked <;> rfl

end MomentField

namespace Moment

def clock (moment : Moment) : String :=
  String.join [paddedYear .zeros moment.date.year, "-", twoPlaces .zeros moment.date.month, "-",
    twoPlaces .zeros moment.date.day, " ", twoPlaces .zeros moment.hour, ":",
    twoPlaces .zeros moment.minute, ":", twoPlaces .zeros moment.writtenSecond]

/-- The fraction of a second behind the date and the time: six digits, or nothing. -/
def clockFraction (moment : Moment) : String :=
  if moment.microseconds = 0 then "" else "." ++ fractionDigits 6 moment.writtenNanoseconds

end Moment

namespace Placeholder

theorem renderFormat_eq_ok_iff {moment : Moment} {format text : String} :
    renderFormat moment format = .ok text ↔
      (Directive.parse? format.toList).bind (Directive.renderAll? moment) = some text := by
  unfold renderFormat
  cases Directive.parse? format.toList with
  | none => exact ⟨nofun, nofun⟩
  | some directives =>
      dsimp only [Option.bind_some]
      cases Directive.renderAll? moment directives with
      | none => exact ⟨nofun, nofun⟩
      | some found => rw [Except.ok.injEq, Option.some.injEq]

theorem renderFormat_clock (moment : Moment) :
    renderFormat moment "%Y-%m-%d %H:%M:%S" = .ok moment.clock := by
  have known : Directive.parse? "%Y-%m-%d %H:%M:%S".toList =
      some [.zeroPadded .year, .literal "-", .zeroPadded .month, .literal "-", .zeroPadded .day,
        .literal " ", .zeroPadded .hour, .literal ":", .zeroPadded .minute, .literal ":",
        .zeroPadded .second] := by
    cbv
  rw [renderFormat_eq_ok_iff, known]
  rfl

theorem renderFormat_preciseClock (moment : Moment) :
    renderFormat moment "%Y-%m-%d %H:%M:%S%.6f" =
      .ok (moment.clock ++ ("." ++ fractionDigits 6 moment.writtenNanoseconds)) := by
  have known : Directive.parse? "%Y-%m-%d %H:%M:%S%.6f".toList =
      some [.zeroPadded .year, .literal "-", .zeroPadded .month, .literal "-", .zeroPadded .day,
        .literal " ", .zeroPadded .hour, .literal ":", .zeroPadded .minute, .literal ":",
        .zeroPadded .second, .fixedFraction true 6] := by
    cbv
  rw [renderFormat_eq_ok_iff, known]
  rfl

def written : Placeholder → List Char
  | .whole => ['n', 'o', 'w']
  | .formatted format => 'n' :: 'o' :: 'w' :: ':' :: format.toList
  | .field asked => 'n' :: 'o' :: 'w' :: '.' :: asked.name.toList

def text? (moment : Moment) : Placeholder → Option String
  | .whole => some (moment.clock ++ moment.clockFraction)
  | .formatted format => (Directive.parse? format.toList).bind (Directive.renderAll? moment)
  | .field asked => some (toString (asked.valueAt moment))

theorem render_eq_ok_iff {moment : Moment} {asked : Placeholder} {text : String} :
    asked.render moment = .ok text ↔ asked.text? moment = some text := by
  cases asked with
  | whole =>
      have rendered : render moment .whole = .ok (moment.clock ++ moment.clockFraction) := by
        unfold render wholeFormat Moment.clockFraction
        dsimp only
        split
        · rw [renderFormat_clock, String.append_empty]
        · exact renderFormat_preciseClock moment
      rw [rendered, Except.ok.injEq]
      exact Option.some_inj.symm
  | formatted format => exact renderFormat_eq_ok_iff
  | field asked =>
      unfold render text?
      rw [Except.ok.injEq, Option.some.injEq]

theorem splitAtColon_of_not_mem {text : List Char} (whole : ':' ∉ text) :
    splitAtColon text = (text, none) := by
  have none : text.dropWhile (· != ':') = [] := by
    rw [List.dropWhile_eq_nil_iff]
    intro c found
    have other : c ≠ ':' := fun same => whole (same ▸ found)
    exact bne_iff_ne.mpr other
  unfold splitAtColon
  rw [none]

theorem splitAtColon_append {name : List Char} (whole : ':' ∉ name) (format : List Char) :
    splitAtColon (name ++ ':' :: format) = (name, some format) := by
  have before : ∀ c ∈ name, (c != ':') = true := by
    intro c found
    have other : c ≠ ':' := fun same => whole (same ▸ found)
    exact bne_iff_ne.mpr other
  have behind : (name ++ ':' :: format).dropWhile (· != ':') = ':' :: format := by
    rw [List.dropWhile_append_of_pos before]
    rfl
  unfold splitAtColon
  rw [behind, List.takeWhile_append_of_pos before]
  simp

/-- What stands between the braces of a placeholder names it. -/
theorem parse_written (asked : Placeholder) : parse asked.written = .ok asked := by
  cases asked with
  | whole => rfl
  | formatted format =>
      have whole : ':' ∉ ['n', 'o', 'w'] := by decide
      have cut : splitAtColon (written (.formatted format)) =
          (['n', 'o', 'w'], some format.toList) :=
        splitAtColon_append whole format.toList
      unfold parse
      rw [cut]
      exact congrArg (fun text => Except.ok (formatted text)) String.ofList_toList
  | field asked => cases asked <;> rfl

theorem eq_written_of_parse {text : List Char} {asked : Placeholder}
    (read : parse text = .ok asked) : text = asked.written := by
  unfold parse at read
  by_cases colon : ':' ∈ text
  · obtain ⟨name, format, rfl, whole⟩ := List.eq_append_cons_of_mem colon
    rw [splitAtColon_append whole] at read
    dsimp only at read
    split at read
    · rename_i named same
      cases same
      cases read
      have letters : name = ['n', 'o', 'w'] := by
        rw [← String.toList_ofList (l := name), named]
        rfl
      rw [letters]
      exact congrArg (['n', 'o', 'w', ':'] ++ ·) String.toList_ofList.symm
    · rename_i noFormat
      cases noFormat
    · split at read
      · rename_i noFormat _ _
        cases noFormat
      · cases read
      · cases read
  · rw [splitAtColon_of_not_mem colon] at read
    dsimp only at read
    split at read
    · rename_i noFormat
      cases noFormat
    · rename_i named _
      cases read
      rw [← String.toList_ofList (l := text), named]
      rfl
    · split at read
      · split at read
        · rename_i found
          cases read
          have called := MomentField.ofName?_eq_some_iff.mp found
          rw [written, ← called, String.toList_ofList]
        · cases read
      · cases read
      · cases read

theorem written_injective {first second : Placeholder} (same : first.written = second.written) :
    first = second := by
  have read := parse_written first
  rw [same, parse_written second] at read
  exact (Except.ok.inj read).symm

theorem exists_written (asked : Placeholder) : ∃ rest, asked.written = 'n' :: rest := by
  cases asked with
  | whole => exact ⟨_, rfl⟩
  | formatted format => exact ⟨_, rfl⟩
  | field asked => exact ⟨_, rfl⟩

theorem single (asked : Placeholder) : asked.written.head? ≠ some '\x7b' := by
  obtain ⟨rest, begun⟩ := asked.exists_written
  rw [begun]
  exact fun same => absurd (Option.some.inj same) (by decide)

end Placeholder

/-- A piece of a template. -/
inductive TemplatePiece where
  | character (c : Char) (ordinary : c ≠ '\x7b' ∧ c ≠ '\x7d')
  | openingBrace
  | closingBrace
  | placeholder (asked : Placeholder) (closed : '\x7d' ∉ asked.written)

namespace TemplatePiece

/-- How a piece is written: a brace twice, a placeholder between braces. -/
def written : TemplatePiece → List Char
  | .character c _ => [c]
  | .openingBrace => ['\x7b', '\x7b']
  | .closingBrace => ['\x7d', '\x7d']
  | .placeholder asked _ => '\x7b' :: (asked.written ++ ['\x7d'])

def text? (moment : Moment) : TemplatePiece → Option (List Char)
  | .character c _ => some [c]
  | .openingBrace => some ['\x7b']
  | .closingBrace => some ['\x7d']
  | .placeholder asked _ => (asked.text? moment).map String.toList

def template (pieces : List TemplatePiece) : List Char := pieces.flatMap written

/-- The text of some pieces, if each of them has one. -/
def textOf? (moment : Moment) : List TemplatePiece → Option (List Char)
  | [] => some []
  | piece :: rest => do
      let text ← piece.text? moment
      return text ++ (← textOf? moment rest)

theorem written_ne_nil (piece : TemplatePiece) : piece.written ≠ [] := by
  cases piece <;> exact List.cons_ne_nil _ _

/-- A text without a character ends where this character stands first. -/
theorem append_cons_inj {c : Char} {first second : List Char} (without : c ∉ first)
    (alsoWithout : c ∉ second) {rest later : List Char}
    (same : first ++ c :: rest = second ++ c :: later) : first = second ∧ rest = later := by
  have others {text : List Char} (without : c ∉ text) : ∀ other ∈ text, (other != c) = true :=
    fun other found => bne_iff_ne.mpr fun same => without (same ▸ found)
  have stops (rest : List Char) : ∀ other ∈ (c :: rest).head?, (other != c) = false := by
    rintro other ⟨⟩
    exact bne_self_eq_false c
  obtain ⟨texts, behind⟩ := Text.append_inj_of_stops (others without) (others alsoWithout)
    (stops rest) (stops later) same
  exact ⟨texts, (List.cons.inj behind).2⟩

theorem written_append_inj {first second : TemplatePiece} {rest later : List Char}
    (same : first.written ++ rest = second.written ++ later) : first = second ∧ rest = later := by
  cases first with
  | character c ordinary =>
    cases second with
    | character other _ => cases same; exact ⟨rfl, rfl⟩
    | openingBrace => exact absurd (List.cons.inj same).1 ordinary.1
    | closingBrace => exact absurd (List.cons.inj same).1 ordinary.2
    | placeholder asked _ => exact absurd (List.cons.inj same).1 ordinary.1
  | openingBrace =>
    cases second with
    | character other ordinary => exact absurd (List.cons.inj same).1.symm ordinary.1
    | openingBrace => cases same; exact ⟨rfl, rfl⟩
    | closingBrace => cases same
    | placeholder asked _ =>
      obtain ⟨letters, begun⟩ := asked.exists_written
      rw [written, written, begun] at same
      cases same
  | closingBrace =>
    cases second with
    | character other ordinary => exact absurd (List.cons.inj same).1.symm ordinary.2
    | openingBrace => cases same
    | closingBrace => cases same; exact ⟨rfl, rfl⟩
    | placeholder asked _ => cases same
  | placeholder asked closed =>
    cases second with
    | character other ordinary => exact absurd (List.cons.inj same).1.symm ordinary.1
    | openingBrace =>
      obtain ⟨letters, begun⟩ := asked.exists_written
      rw [written, written, begun] at same
      cases same
    | closingBrace => cases same
    | placeholder other alsoClosed =>
      have between : asked.written ++ ['\x7d'] ++ rest = other.written ++ ['\x7d'] ++ later :=
        (List.cons.inj same).2
      rw [List.append_assoc, List.append_assoc] at between
      obtain ⟨named, ends⟩ := append_cons_inj closed alsoClosed between
      cases Placeholder.written_injective named
      exact ⟨rfl, ends⟩

/-- A template is cut into pieces in one way only. -/
theorem template_injective {first second : List TemplatePiece}
    (same : template first = template second) : first = second := by
  induction first generalizing second with
  | nil =>
      cases second with
      | nil => rfl
      | cons piece rest =>
          have empty := (List.append_eq_nil_iff.mp same.symm).1
          exact absurd empty piece.written_ne_nil
  | cons piece rest ih =>
      cases second with
      | nil =>
          have empty := (List.append_eq_nil_iff.mp same).1
          exact absurd empty piece.written_ne_nil
      | cons other others =>
          obtain ⟨rfl, behind⟩ := written_append_inj same
          rw [ih behind]

def ofCharacter (c : Char) : TemplatePiece :=
  if opening : c = '\x7b' then .openingBrace
  else if closing : c = '\x7d' then .closingBrace
  else .character c ⟨opening, closing⟩

theorem written_ofCharacter (c : Char) :
    (ofCharacter c).written = if c = '\x7b' ∨ c = '\x7d' then [c, c] else [c] := by
  unfold ofCharacter
  by_cases opening : c = '\x7b'
  · subst opening
    rfl
  · by_cases closing : c = '\x7d'
    · subst closing
      rfl
    · rw [dif_neg opening, dif_neg closing, if_neg (not_or.mpr ⟨opening, closing⟩)]
      rfl

theorem text?_ofCharacter (moment : Moment) (c : Char) :
    (ofCharacter c).text? moment = some [c] := by
  unfold ofCharacter
  by_cases opening : c = '\x7b'
  · subst opening
    rfl
  · by_cases closing : c = '\x7d'
    · subst closing
      rfl
    · rw [dif_neg opening, dif_neg closing]
      rfl

theorem textOf?_ofCharacter (moment : Moment) (text : List Char) :
    textOf? moment (text.map ofCharacter) = some text := by
  induction text with
  | nil => rfl
  | cons c rest ih =>
      rw [List.map_cons, textOf?, text?_ofCharacter, ih]
      rfl

end TemplatePiece

namespace Template

variable {moment : Moment}

/-- What the first character means: outside of placeholders with no second one behind it, or inside. -/
structure ReadsFirst (moment : Moment) (c : Char) (rest : List Char) : Prop where
  ordinary : c ≠ '\x7b' ∧ c ≠ '\x7d' →
    renderFrom moment none (c :: rest) = (renderFrom moment none rest).map (c :: ·)
  begins : c = '\x7b' → rest.head? ≠ some '\x7b' →
    renderFrom moment none (c :: rest) = renderFrom moment (some []) rest
  unopened : c = '\x7d' → rest.head? ≠ some '\x7d' →
    renderFrom moment none (c :: rest) = .error .unopened
  between (held : List Char) : c ≠ '\x7d' →
    renderFrom moment (some held) (c :: rest) = renderFrom moment (some (c :: held)) rest

theorem readsFirst (moment : Moment) (c : Char) (rest : List Char) : ReadsFirst moment c rest where
  ordinary := by
    intro ordinary
    rw [renderFrom]
    · exact bind_pure_comp _ _
    · rintro later rfl
      exact absurd rfl ordinary.1
    · exact ordinary.1
    · rintro later rfl
      exact absurd rfl ordinary.2
    · exact ordinary.2
  begins := by
    rintro rfl single
    rw [renderFrom]
    rintro later rfl
    exact single rfl
  unopened := by
    rintro rfl single
    rw [renderFrom]
    rintro later rfl
    exact single rfl
  between held := by
    intro other
    rw [renderFrom]
    exact other

theorem renderFrom_openingBrace (rest : List Char) :
    renderFrom moment none ('\x7b' :: '\x7b' :: rest) =
      (renderFrom moment none rest).map ('\x7b' :: ·) :=
  bind_pure_comp ('\x7b' :: ·) (renderFrom moment none rest)

theorem renderFrom_closingBrace (rest : List Char) :
    renderFrom moment none ('\x7d' :: '\x7d' :: rest) =
      (renderFrom moment none rest).map ('\x7d' :: ·) :=
  bind_pure_comp ('\x7d' :: ·) (renderFrom moment none rest)

/-- What stands between braces is collected up to the closing brace. -/
theorem renderFrom_between {body : List Char} (closed : '\x7d' ∉ body) (between rest : List Char) :
    renderFrom moment (some between) (body ++ rest) =
      renderFrom moment (some (body.reverse ++ between)) rest := by
  induction body generalizing between with
  | nil => rfl
  | cons c others ih =>
      obtain ⟨other, later⟩ := not_or.mp (mt List.mem_cons.mpr closed)
      have step := (readsFirst moment c (others ++ rest)).between between (Ne.symm other)
      rw [List.cons_append, step, ih later, List.reverse_cons, List.append_assoc]
      rfl

/-- Without a closing brace there is no placeholder. -/
theorem renderFrom_unclosed {body : List Char} (unclosed : '\x7d' ∉ body) (between : List Char) :
    renderFrom moment (some between) body = .error .unclosed := by
  rw [← List.append_nil body, renderFrom_between unclosed]
  rfl

/-- A closing brace ends a placeholder, which is rendered before what follows. -/
theorem renderFrom_close {body : List Char} (single : body.head? ≠ some '\x7b')
    (closed : '\x7d' ∉ body) (rest : List Char) :
    renderFrom moment none ('\x7b' :: (body ++ '\x7d' :: rest)) =
      (Placeholder.parse body).bind fun asked =>
        (asked.render moment).bind fun text =>
          (renderFrom moment none rest).map (text.toList ++ ·) := by
  have begun : (body ++ '\x7d' :: rest).head? ≠ some '\x7b' := by
    cases body with
    | nil => exact fun same => absurd (Option.some.inj same) (by decide)
    | cons c others => exact single
  rw [(readsFirst moment _ _).begins rfl begun, renderFrom_between closed, List.append_nil]
  change (Placeholder.parse body.reverse.reverse).bind _ = _
  rw [List.reverse_reverse]
  refine congrArg (Except.bind _) (funext fun asked => ?_)
  exact congrArg (Except.bind _) (funext fun text => bind_pure_comp _ _)

theorem renderFrom_piece {piece : TemplatePiece} {text : List Char}
    (valued : piece.text? moment = some text) (rest : List Char) :
    renderFrom moment none (piece.written ++ rest) =
      (renderFrom moment none rest).map (text ++ ·) := by
  cases piece with
  | character c ordinary =>
      cases valued
      exact (readsFirst moment c rest).ordinary ordinary
  | openingBrace =>
      cases valued
      exact renderFrom_openingBrace rest
  | closingBrace =>
      cases valued
      exact renderFrom_closingBrace rest
  | placeholder asked closed =>
      obtain ⟨found, named, rfl⟩ := Option.map_eq_some_iff.mp valued
      have rendered := Placeholder.render_eq_ok_iff.mpr named
      rw [TemplatePiece.written, List.cons_append, List.append_assoc]
      refine (renderFrom_close asked.single closed rest).trans ?_
      rw [Placeholder.parse_written]
      dsimp only [Except.bind]
      rw [rendered]

/-- A template that can be rendered is empty, or begins with a piece that has a text. -/
theorem eq_nil_or_exists_piece {template text : List Char}
    (rendered : renderFrom moment none template = .ok text) :
    template = [] ∨ ∃ (piece : TemplatePiece) (rest here : List Char),
      template = piece.written ++ rest ∧ piece.text? moment = some here := by
  cases template with
  | nil => exact .inl rfl
  | cons c body =>
      refine .inr ?_
      by_cases opening : c = '\x7b'
      · subst opening
        by_cases twice : body.head? = some '\x7b'
        · obtain ⟨rest, rfl⟩ := List.head?_eq_some_iff.mp twice
          exact ⟨.openingBrace, rest, _, rfl, rfl⟩
        · by_cases closing : '\x7d' ∈ body
          · obtain ⟨between, rest, rfl, closed⟩ := List.eq_append_cons_of_mem closing
            have single : between.head? ≠ some '\x7b' := by
              cases between with
              | nil => exact nofun
              | cons c others => exact twice
            rw [renderFrom_close single closed] at rendered
            obtain ⟨asked, read, behind⟩ := exists_of_bind_eq_ok rendered
            obtain ⟨found, named, -⟩ := exists_of_bind_eq_ok behind
            cases Placeholder.eq_written_of_parse read
            refine ⟨.placeholder asked closed, rest, found.toList, ?_, ?_⟩
            · rw [TemplatePiece.written, List.cons_append, List.append_assoc]
              rfl
            · rw [TemplatePiece.text?, Placeholder.render_eq_ok_iff.mp named]
              rfl
          · rw [(readsFirst moment _ body).begins rfl twice, renderFrom_unclosed closing] at rendered
            cases rendered
      · by_cases closing : c = '\x7d'
        · subst closing
          by_cases twice : body.head? = some '\x7d'
          · obtain ⟨rest, rfl⟩ := List.head?_eq_some_iff.mp twice
            exact ⟨.closingBrace, rest, _, rfl, rfl⟩
          · rw [(readsFirst moment _ body).unopened rfl twice] at rendered
            cases rendered
        · exact ⟨.character c ⟨opening, closing⟩, body, _, rfl, rfl⟩

/-- Pieces that have texts are replaced by them, whatever follows. -/
theorem renderFrom_template {pieces : List TemplatePiece} {text : List Char}
    (valued : TemplatePiece.textOf? moment pieces = some text) (rest : List Char) :
    renderFrom moment none (TemplatePiece.template pieces ++ rest) =
      (renderFrom moment none rest).map (text ++ ·) := by
  induction pieces generalizing text with
  | nil =>
      cases valued
      exact (id_map (renderFrom moment none rest)).symm
  | cons piece others ih =>
      obtain ⟨here, first, behind⟩ := Option.bind_eq_some_iff.mp valued
      obtain ⟨later, found, same⟩ := Option.bind_eq_some_iff.mp behind
      cases same
      rw [TemplatePiece.template, List.flatMap_cons, List.append_assoc, renderFrom_piece first]
      refine (congrArg (Except.map (here ++ ·)) (ih found)).trans ?_
      cases renderFrom moment none rest with
      | ok text => exact congrArg Except.ok (List.append_assoc here later text).symm
      | error issue => rfl

theorem exists_pieces {template text : List Char}
    (rendered : renderFrom moment none template = .ok text) :
    ∃ pieces, TemplatePiece.template pieces = template ∧
      TemplatePiece.textOf? moment pieces = some text := by
  rcases eq_nil_or_exists_piece rendered with rfl | ⟨piece, rest, here, rfl, first⟩
  · cases rendered
    exact ⟨[], rfl, rfl⟩
  · rw [renderFrom_piece first] at rendered
    obtain ⟨later, behind, same⟩ := exists_of_map_eq_ok rendered
    have shorter : rest.length < (piece.written ++ rest).length := by
      have := List.length_pos_iff.mpr piece.written_ne_nil
      rw [List.length_append]
      omega
    obtain ⟨pieces, written, valued⟩ := exists_pieces behind
    refine ⟨piece :: pieces, ?_, ?_⟩
    · rw [TemplatePiece.template, List.flatMap_cons, ← written]
      rfl
    · rw [TemplatePiece.textOf?, first, valued, ← same]
      rfl
termination_by template.length

theorem render_eq_ok_iff {template text : String} :
    render template moment = .ok text ↔
      ∃ pieces, TemplatePiece.template pieces = template.toList ∧
        TemplatePiece.textOf? moment pieces = some text.toList := by
  constructor
  · intro rendered
    obtain ⟨found, ran, same⟩ := exists_of_map_eq_ok rendered
    obtain ⟨pieces, written, valued⟩ := exists_pieces ran
    refine ⟨pieces, written, ?_⟩
    rw [valued, ← same, String.toList_ofList]
  · rintro ⟨pieces, written, valued⟩
    have ran := renderFrom_template valued []
    rw [List.append_nil, written] at ran
    unfold render
    rw [ran]
    change Except.ok (String.ofList (text.toList ++ [])) = _
    rw [List.append_nil, String.ofList_toList]

/-- What follows a template that can be rendered is rendered by itself. -/
theorem render_append {first second text : String} (rendered : render first moment = .ok text) :
    render (first ++ second) moment = (render second moment).map (text ++ ·) := by
  obtain ⟨pieces, written, valued⟩ := render_eq_ok_iff.mp rendered
  unfold render
  rw [String.toList_append, ← written, renderFrom_template valued]
  cases renderFrom moment none second.toList with
  | ok later =>
      refine congrArg Except.ok (String.toList_inj.mp ?_)
      rw [String.toList_append, String.toList_ofList, String.toList_ofList]
  | error issue => rfl

def doubled (text : String) : String :=
  String.ofList (text.toList.flatMap fun c => if c = '\x7b' ∨ c = '\x7d' then [c, c] else [c])

theorem render_doubled (text : String) : render (doubled text) moment = .ok text := by
  refine render_eq_ok_iff.mpr ⟨text.toList.map TemplatePiece.ofCharacter, ?_, ?_⟩
  · rw [TemplatePiece.template, List.flatMap_map, doubled, String.toList_ofList]
    exact congrArg (text.toList.flatMap ·) (funext TemplatePiece.written_ofCharacter)
  · exact TemplatePiece.textOf?_ofCharacter moment text.toList

theorem renderTemplate_of_error {template : String} {issue : TemplateIssue}
    (failed : render template moment = .error issue) :
    Scope.renderTemplate moment (.string template) =
      .error (.invalidFormat Tag.dateTime.name issue) := by
  have given : Tag.dateTime.scalarText (.string template) = .ok template := rfl
  unfold Scope.renderTemplate
  rw [given]
  dsimp only [bind, Except.bind]
  rw [failed]
  rfl

/--
A template has a text exactly if it can be cut into pieces that have one, and its text is theirs; there
is one way to cut it at most, and any other template is in an invalid format.  So a template that has
a text does not change what follows it, and a text with doubled braces is a template for itself.
-/
theorem render_by_pieces (moment : Moment) :
    (∀ template text, render template moment = .ok text ↔
        ∃ pieces, TemplatePiece.template pieces = template.toList ∧
          TemplatePiece.textOf? moment pieces = some text.toList) ∧
      (∀ first second, TemplatePiece.template first = TemplatePiece.template second →
        first = second) ∧
      (∀ template : String,
        (∀ pieces, TemplatePiece.template pieces = template.toList →
          TemplatePiece.textOf? moment pieces = none) →
        ∃ issue, render template moment = .error issue ∧
          Scope.renderTemplate moment (.string template) =
            .error (.invalidFormat Tag.dateTime.name issue)) ∧
      (∀ first text second, render first moment = .ok text →
        render (first ++ second) moment = (render second moment).map (text ++ ·)) ∧
      ∀ text, render (doubled text) moment = .ok text := by
  refine ⟨fun _ _ => render_eq_ok_iff, fun _ _ => TemplatePiece.template_injective,
    fun template none => ?_, fun _ _ _ => render_append, render_doubled⟩
  cases rendered : render template moment with
  | ok text =>
      obtain ⟨pieces, written, valued⟩ := render_eq_ok_iff.mp rendered
      cases valued.symm.trans (none pieces written)
  | error issue => exact ⟨issue, rfl, renderTemplate_of_error rendered⟩

/-- A year between braces that are written twice, with one more brace behind, and without an end. -/
theorem render_by_pieces_of_braces :
    let moment : Moment := ⟨0, 0, .universal⟩
    let year := "\x7b\x7b\x7bnow.year\x7d\x7d\x7d"
    render year moment = .ok "\x7b1970\x7d" ∧
      render (year ++ "\x7d") moment = .error .unopened ∧
      Scope.renderTemplate moment (.string "\x7bnow") =
        .error (.invalidFormat "datetime" .unclosed) := by
  intro moment year
  obtain ⟨accepted, -, refused, appended, -⟩ := render_by_pieces moment
  have rendered : render year moment = .ok "\x7b1970\x7d" := by
    have closed : '\x7d' ∉ Placeholder.written (.field .year) := by decide
    refine (accepted _ _).mpr
      ⟨[.openingBrace, .placeholder (.field .year) closed, .closingBrace], ?_, ?_⟩
    · cbv
    · cbv
  have unopened : render "\x7d" moment = .error .unopened := rfl
  have unclosed : render "\x7bnow" moment = .error .unclosed := rfl
  refine ⟨rendered, ?_, ?_⟩
  · rw [appended _ _ _ rendered, unopened]
    rfl
  · obtain ⟨issue, failed, invalid⟩ := refused "\x7bnow" fun pieces written => by
      cases valued : TemplatePiece.textOf? moment pieces with
      | none => rfl
      | some text =>
          have found := (accepted "\x7bnow" (String.ofList text)).mpr
            ⟨pieces, written, valued.trans (congrArg some String.toList_ofList.symm)⟩
          cases found.symm.trans unclosed
    cases failed.symm.trans unclosed
    exact invalid

end Template

end TaggedConfig
