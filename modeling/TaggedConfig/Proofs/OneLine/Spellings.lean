import TaggedConfig.Proofs.OneLine.Names
import TaggedConfig.Proofs.Options

/-!
# The spellings of a variable

A variable is assigned in three forms of a document and read in three others.  In four of them its name
is taken as it is written.  In the other two the name is a scalar of its own, which is typed by its
spelling before it is a name again: the variable is then what the scalar is written as in a message.
-/

namespace TaggedConfig

open Yaml Implicit

def bareValue? (name : String) : Option Value :=
  (Scalar.plain name).toOption.bind fun node => (Value.ofNode node).toOption

/-- A document that assigns a variable an integer. -/
inductive Storing where
  | arrow
  | taggedArrow
  | pair
  deriving DecidableEq, Repr

namespace Storing

def text (name : String) (value : Int64) : Storing → String
  | arrow => name ++ " <= " ++ toString value.toInt
  | taggedArrow => "!store " ++ (name ++ " <= " ++ toString value.toInt)
  | pair => "!store [" ++ name ++ ", " ++ toString value.toInt ++ "]"

/-- The variable that is assigned. -/
def assigned? (name : String) : Storing → Option String
  | arrow | taggedArrow => some name
  | pair => (bareValue? name).bind Value.key?

def line (name : String) (value : Int64) : Storing → Line
  | arrow => .scalar (name ++ " <= " ++ toString value.toInt).toList
  | taggedArrow => .tagged "store".toList (name ++ " <= " ++ toString value.toInt).toList
  | pair => .pair "store".toList name.toList (toString value.toInt).toList

end Storing

/-- A document that reads a variable. -/
inductive Reading where
  | reference
  | taggedReference
  | taggedName
  deriving DecidableEq, Repr

namespace Reading

def text (name : String) : Reading → String
  | reference => "$" ++ name
  | taggedReference => "!load $" ++ name
  | taggedName => "!load " ++ name

/-- The variable that is read. -/
def read? (name : String) : Reading → Option String
  | reference | taggedReference => some name
  | taggedName => (bareValue? name).bind fun value => (Tag.load.scalarText value).toOption

def line (name : String) : Reading → Line
  | reference => .scalar ("$" ++ name).toList
  | taggedReference => .tagged "load".toList ("$" ++ name).toList
  | taggedName => .tagged "load".toList name.toList

end Reading

variable {name : String}

theorem Storing.toList_text (form : Storing) (name : String) (value : Int64) :
    (form.text name value).toList = (form.line name value).text := by
  cases form with
  | arrow => rfl
  | taggedArrow => simp [text, line, Line.text]
  | pair => simp [text, line, Line.text]

theorem Reading.toList_text (form : Reading) (name : String) :
    (form.text name).toList = (form.line name).text := by
  cases form with
  | reference => rfl
  | taggedReference => simp [text, line, Line.text]
  | taggedName => simp [text, line, Line.text]

theorem Storing.isWritten (form : Storing) (named : IsName name.toList) (value : Int64) :
    (form.line name value).IsWritten := by
  have assigns := isScalar_arrow named value.toInt
  cases form with
  | arrow => exact .scalar assigns
  | taggedArrow => exact .tagged Line.tag_store assigns
  | pair => exact .pair Line.tag_store (isScalar_of_isName named) (isScalar_toString value.toInt)

theorem Reading.isWritten (form : Reading) (named : IsName name.toList) :
    (form.line name).IsWritten := by
  cases form with
  | reference => exact .scalar (isScalar_dollar named)
  | taggedReference => exact .tagged Line.tag_load (isScalar_dollar named)
  | taggedName => exact .tagged Line.tag_load (isScalar_of_isName named)

theorem eq_ok_of_toOption {ε α : Type} {result : Except ε α} {value : α}
    (kept : result.toOption = some value) : result = .ok value := by
  cases result with
  | ok other => exact congrArg Except.ok (Option.some.inj kept)
  | error issue => cases kept

theorem exists_of_bareValue? {bare : Value} (found : bareValue? name = some bare) :
    ∃ node, Scalar.plain name = .ok node ∧ Value.ofNode node = .ok bare := by
  obtain ⟨node, read, taken⟩ := Option.bind_eq_some_iff.mp found
  exact ⟨node, eq_ok_of_toOption read, eq_ok_of_toOption taken⟩

theorem eq_string_of_ofNode {node : Node} (scalar : Scope.isCollection node = false)
    {text : String} (taken : Value.ofNode node = .ok (.string text)) : node = .string text := by
  cases node with
  | string other =>
      cases taken
      rfl
  | integer value =>
      have other : Value.ofInteger value = .string text := Except.ok.inj taken
      unfold Value.ofInteger at other
      split at other <;> cases other
  | sequence items => cases scalar
  | mapping entries => cases scalar
  | _ => cases taken

/-- What a number is written as does not begin with a dollar sign. -/
theorem reference?_render (x : Binary64) : reference? (FloatStyle.plain.render x) = none := by
  refine reference?_eq_none fun c first => ?_
  cases size : x.magnitude with
  | nan =>
      unfold FloatStyle.render at first
      rw [size] at first
      dsimp only at first
      cases first
      decide
  | infinite =>
      unfold FloatStyle.render at first
      rw [size] at first
      dsimp only at first
      split at first
      · cases first
        decide
      · cases first
        decide
  | finite significand exponent =>
      rw [Scalar.render_finite size] at first
      have number := (Scalar.unsigned_isUnsigned .plain (Binary.shortest .double FloatStyle.plain.tie
        significand exponent)).1
      rintro rfl
      rcases number.head_signed x.negative '$' first with same | digit
      · cases same
      · cases digit

theorem reference?_of_bareValue? (named : IsName name.toList) {bare : Value} {text : String}
    (found : bareValue? name = some bare) (written : Tag.load.scalarText bare = .ok text) :
    reference? text = none := by
  cases bare with
  | null => cases written
  | sequence items => cases written
  | mapping entries => cases written
  | bool value =>
      cases written
      cases value <;> decide
  | integer value =>
      cases written
      refine reference?_eq_none fun c first => ?_
      rintro rfl
      cases Scalar.numeric_toString value.toInt '$' (List.mem_of_head? first)
  | float value =>
      cases written
      exact reference?_render value
  | string other =>
      cases written
      obtain ⟨node, read, taken⟩ := exists_of_bareValue? found
      have scalar := (Scalar.isPlain_of_plain (ofText?_name named) read).2
      rw [eq_string_of_ofNode scalar taken] at read
      rw [Scalar.eq_of_plain_eq_string read]
      exact reference?_name named

section

variable {scope : Scope} {tagged : String} {tag : Tag}

theorem resolve_tagged_scalar {content : Node} {input : Value}
    (known : scope.tags.get? (tagName tagged) = some tag)
    (scalar : Scope.isCollection content = false) (taken : Value.ofNode content = .ok input) :
    scope.resolve (.tagged tagged content) = scope.applyTag scope.resolveValueText tag input := by
  unfold Scope.resolve
  rw [Scope.resolveNode_of_known known, scalar, taken]
  rfl

/-- A tag that is known is applied to a pair without tags as it is written. -/
theorem resolve_tagged_pair {first second : Node} {one other : Value}
    (known : scope.tags.get? (tagName tagged) = some tag) (firstPlain : first.IsPlain)
    (secondPlain : second.IsPlain) (firstTaken : Value.ofNode first = .ok one)
    (secondTaken : Value.ofNode second = .ok other) :
    scope.resolve (.tagged tagged (.sequence [first, second])) =
      scope.applyTag scope.resolveValueText tag (.sequence [one, other]) := by
  have settles := resolveNode_settles scope scope.resolveValueText
    (.sequence (List.forall_mem_cons.mpr ⟨firstPlain, List.forall_mem_singleton.mpr secondPlain⟩))
  have taken : Value.ofNode (.sequence [first, second]) = .ok (.sequence [one, other]) := by
    simp only [Value.ofNode, Value.ofNodes, firstTaken, secondTaken]
    rfl
  rw [taken] at settles
  have resolved : scope.resolveNode scope.resolveValueText (.sequence [first, second]) =
      .ofValue (.sequence [one, other]) := settles
  have collection : Scope.isCollection (.sequence [first, second]) = true := rfl
  unfold Scope.resolve
  rw [Scope.resolveNode_of_known known, if_pos collection, resolved]
  rfl

theorem assignment?_toString (named : IsName name.toList) (value : Int) :
    assignment? (name ++ " <= " ++ toString value) = some (name, toString value) := by
  have numeric := Scalar.numeric_toString value
  refine assignment?_arrow named ?_ fun found => by cases (of_isNumeric (numeric _ found)).1
  obtain ⟨c, rest, written, -⟩ := (isScalar_toString value).plain.begins
  rw [written] at numeric
  exact ⟨c, rest, written, (of_isNumeric (numeric c List.mem_cons_self)).1⟩

theorem plain_arrow (name valueText : String) :
    Scalar.plain (name ++ " <= " ++ valueText) = .ok (.string (name ++ " <= " ++ valueText)) :=
  Scalar.plain_of_foreign (rfl : Scalar.isSpelling '<' = false) (by simp)

theorem plain_dollar (name : String) :
    Scalar.plain ("$" ++ name) = .ok (.string ("$" ++ name)) :=
  Scalar.plain_of_foreign (rfl : Scalar.isSpelling '$' = false) (by simp)

/-- Each document that assigns a variable does nothing else. -/
theorem Storing.asks (form : Storing) (named : IsName name.toList) (value : Int64) {stored : String}
    (assigned : form.assigned? name = some stored)
    (known : scope.tags.get? (tagName "store") = some .store) :
    ∃ node, (form.line name value).node = .ok node ∧
      scope.resolve node = .assign stored (.integer value) := by
  have byText : Scope.assignText scope.resolveValueText name (toString value.toInt) =
      .assign name (.integer value) := by
    unfold Scope.assignText
    rw [resolveValueText_toString scope value]
    rfl
  cases form with
  | arrow =>
      cases assigned
      refine ⟨.string (name ++ " <= " ++ toString value.toInt), ?_, ?_⟩
      · simp only [line, Line.node, String.ofList_toList, plain_arrow]
      · change Scope.resolveText _ _ = _
        unfold Scope.resolveText ofText?
        rw [assignment?_toString named]
        exact byText
  | taggedArrow =>
      cases assigned
      refine ⟨.tagged "store" (.string (name ++ " <= " ++ toString value.toInt)), ?_, ?_⟩
      · simp only [line, Line.node, String.ofList_toList, plain_arrow]
        rfl
      · rw [resolve_tagged_scalar known rfl rfl]
        unfold Scope.applyTag Scope.applyStore
        dsimp only
        rw [assignment?_toString named]
        exact byText
  | pair =>
      obtain ⟨bare, found, key⟩ := Option.bind_eq_some_iff.mp assigned
      obtain ⟨node, read, taken⟩ := exists_of_bareValue? found
      have plain := (Scalar.isPlain_of_plain (ofText?_name named) read).1
      refine ⟨.tagged "store" (.sequence [node, .integer value.toInt]), ?_, ?_⟩
      · simp only [line, Line.node, read, String.ofList_toList, plain_toString]
        rfl
      · rw [resolve_tagged_pair known plain (.integer _) taken
          (congrArg Except.ok (Value.ofInteger_toInt value))]
        unfold Scope.applyTag Scope.applyStore
        dsimp only
        rw [key]

/-- Each document that reads a variable does nothing else. -/
theorem Reading.asks (form : Reading) (named : IsName name.toList) {key : String}
    (reads : form.read? name = some key)
    (known : scope.tags.get? (tagName "load") = some .load) :
    ∃ node, (form.line name).node = .ok node ∧ scope.resolve node = .lookUp key := by
  cases form with
  | reference =>
      cases reads
      refine ⟨.string ("$" ++ name), ?_, ?_⟩
      · simp only [line, Line.node, String.ofList_toList, plain_dollar]
      · change Scope.resolveText _ _ = _
        unfold Scope.resolveText
        rw [ofText?_dollar named]
  | taggedReference =>
      cases reads
      refine ⟨.tagged "load" (.string ("$" ++ name)), ?_, ?_⟩
      · simp only [line, Line.node, String.ofList_toList, plain_dollar]
        rfl
      · rw [resolve_tagged_scalar known rfl rfl]
        change Resolving.lookUp ((reference? ("$" ++ name)).getD ("$" ++ name)) = _
        rw [reference?_dollar named]
        rfl
  | taggedName =>
      obtain ⟨bare, found, key⟩ := Option.bind_eq_some_iff.mp reads
      obtain ⟨node, read, taken⟩ := exists_of_bareValue? found
      have scalar := (Scalar.isPlain_of_plain (ofText?_name named) read).2
      have written := eq_ok_of_toOption key
      refine ⟨.tagged "load" node, ?_, ?_⟩
      · simp only [line, Line.node, read, String.ofList_toList]
        rfl
      · rw [resolve_tagged_scalar known scalar taken]
        change (Resolving.ofExcept (Tag.load.scalarText bare)).bind _ = _
        rw [written]
        change Resolving.lookUp ((reference? _).getD _) = _
        rw [reference?_of_bareValue? named found written]
        rfl

end

namespace Loader

section

variable {line : Line} {text : String} (loader : Loader) (host : Surroundings)

/-- Loading a document of one line does what its node asks for, whatever the documents inside. -/
theorem load_line (written : line.IsWritten) (same : text.toList = line.text)
    {resolving : Resolving Value}
    (asks : ∀ scope : Scope, scope.tags = loader.tags →
      ∃ node, line.node = .ok node ∧ scope.resolve node = resolving) :
    loader.load host (.text text) = resolving.mapError (Failure.toError none) := by
  obtain ⟨node, read, asked⟩ := asks (loader.scopeFor host ⟨"."⟩
    (loader.includeWith host (loader.resolveWithin host (loader.allowance host - 1) 1) 1 ⟨"."⟩)) rfl
  have parsed := written.parse
  rw [read, ← same] at parsed
  have parsed : Node.parse text.toList = .ok node := parsed
  have found : Document.parse text none = .ok ⟨node, ⟨"."⟩, none⟩ := by
    unfold Document.parse
    rw [parsed]
    rfl
  change (Dialogue.ofExcept (Document.parse text none)).bind (loader.resolveDocument host) = _
  rw [found]
  change loader.resolveDocument host ⟨node, ⟨"."⟩, none⟩ = _
  rw [resolveDocument_eq, asked]

/-- A document of one line without a node is refused as a text. -/
theorem load_line_refused (written : line.IsWritten) (same : text.toList = line.text)
    {issue : ContentIssue} (refused : line.node = .error issue) (files : Dialogue.Files)
    (store : Store) :
    ∃ message row column, (loader.load host (.text text)).run files store =
      (some (.error (.ofCause (.malformed message none row column))), store) := by
  have parsed := written.parse
  rw [refused, ← same] at parsed
  obtain ⟨path, mark, refused⟩ := parsed
  have found : Document.parse text none =
      .error (.ofCause (Document.causeOf none (.content issue path mark))) := by
    unfold Document.parse
    rw [refused]
  change ∃ message row column, ((Dialogue.ofExcept (Document.parse text none)).bind
    (loader.resolveDocument host)).run files store = _
  rw [found]
  exact ⟨_, _, _, rfl⟩

end

variable (extensions : List Extension) (limit : Option Nat) (host : Surroundings)
  (files : Dialogue.Files)

/-- Every loader knows the tags that assign and read variables. -/
theorem get?_variables :
    (ofOptions extensions limit).tags.get? (tagName "store") = some .store ∧
      (ofOptions extensions limit).tags.get? (tagName "load") = some .load :=
  ⟨get?_of_basic (by decide : (ofOptions [] none).tags.get? (tagName "store") = some .store),
    get?_of_basic (by decide : (ofOptions [] none).tags.get? (tagName "load") = some .load)⟩

/-- A document that assigns a variable yields the integer. -/
theorem load_storing (form : Storing) (named : IsName name.toList) (value : Int64) {key : String}
    (assigned : form.assigned? name = some key) (store : Store) :
    ((ofOptions extensions limit).load host (.text (form.text name value))).run files store =
      (some (.ok (.integer value)), store.set key (.integer value)) := by
  obtain ⟨known, -⟩ := get?_variables extensions limit
  rw [load_line _ host (form.isWritten named value) (form.toList_text name value) fun scope same =>
    form.asks named value assigned (by rw [same, known])]
  rfl

theorem run_lookUp (key : String) (store : Store) :
    ((Resolving.lookUp key).mapError (Failure.toError none)).run files store =
      (some ((store.get key).mapError (.within ⟨none, ""⟩)), store) := by
  have answered : (Dialogue.readVariable key : Resolving (Option Value)).run files store =
      (some (.ok (store.get? key)), store) := rfl
  unfold Resolving.lookUp Store.get
  rw [Dialogue.run_mapError, Dialogue.bind_eq, Dialogue.run_bind, answered]
  cases store.get? key with
  | none => rfl
  | some value => rfl

/-- A document that reads a variable yields its value, or fails in the document. -/
theorem load_reading (form : Reading) (named : IsName name.toList) {key : String}
    (reads : form.read? name = some key) (store : Store) :
    ((ofOptions extensions limit).load host (.text (form.text name))).run files store =
      (some ((store.get key).mapError (.within ⟨none, ""⟩)), store) := by
  obtain ⟨-, known⟩ := get?_variables extensions limit
  rw [load_line _ host (form.isWritten named) (form.toList_text name) fun scope same =>
    form.asks named reads (by rw [same, known])]
  exact run_lookUp files key store

theorem load_bare_null (named : IsName name.toList) (null : Scalar.plain name = .ok .null)
    (store : Store) :
    ((ofOptions extensions limit).load host (.text (Reading.taggedName.text name))).run files store =
      (some (.error ⟨[⟨none, ""⟩], Tag.load.mismatch (.noScalar .null)⟩), store) := by
  obtain ⟨-, known⟩ := get?_variables extensions limit
  rw [load_line _ host (Reading.taggedName.isWritten named) (Reading.taggedName.toList_text name)
    fun scope same => ⟨.tagged "load" .null, ?_, resolve_tagged_scalar (by rw [same, known]) rfl rfl⟩]
  · rfl
  · simp only [Reading.line, Line.node, String.ofList_toList, null]
    rfl

theorem load_bare_refused (named : IsName name.toList) {issue : ContentIssue}
    (refused : Scalar.plain name = .error issue) (value : Int64) (store : Store) :
    ∀ text ∈ [Storing.pair.text name value, Reading.taggedName.text name],
      ∃ message row column, ((ofOptions extensions limit).load host (.text text)).run files store =
        (some (.error (.ofCause (.malformed message none row column))), store) := by
  intro text found
  rcases List.mem_pair.mp found with rfl | rfl
  · have noNode : (Storing.pair.line name value).node = .error issue := by
      simp only [Storing.line, Line.node, String.ofList_toList, refused]
      rfl
    exact load_line_refused _ host (Storing.pair.isWritten named value)
      (Storing.pair.toList_text name value) noNode files store
  · have noNode : (Reading.taggedName.line name).node = .error issue := by
      simp only [Reading.line, Line.node, String.ofList_toList, refused]
      rfl
    exact load_line_refused _ host (Reading.taggedName.isWritten named)
      (Reading.taggedName.toList_text name) noNode files store

end Loader

/-- A name that is a scalar of its own and not null is one variable, wherever it is written so. -/
theorem exists_bare_variable (named : IsName name.toList) {node : Node}
    (read : Scalar.plain name = .ok node) (noNull : node ≠ .null) :
    ∃ key, Storing.pair.assigned? name = some key ∧ Reading.taggedName.read? name = some key := by
  have scalar := (Scalar.isPlain_of_plain (ofText?_name named) read).2
  unfold Storing.assigned? Reading.read? bareValue?
  rw [read]
  cases node with
  | null => exact absurd rfl noNull
  | bool value => exact ⟨_, rfl, rfl⟩
  | integer value =>
      change ∃ key, (Value.ofInteger value).key? = some key ∧
        (Tag.load.scalarText (Value.ofInteger value)).toOption = some key
      unfold Value.ofInteger
      split <;> exact ⟨_, rfl, rfl⟩
  | float value => exact ⟨_, rfl, rfl⟩
  | string text => exact ⟨_, rfl, rfl⟩
  | sequence items => cases scalar
  | mapping entries => cases scalar
  | tagged tag content => cases (Scalar.isPlain_of_plain (ofText?_name named) read).1

theorem variable_of_string {text : String} (read : Scalar.plain name = .ok (.string text)) :
    (∀ storing : Storing, storing.assigned? name = some name) ∧
      ∀ reading : Reading, reading.read? name = some name := by
  cases Scalar.eq_of_plain_eq_string read
  have bare : bareValue? name = some (.string name) := by
    unfold bareValue?
    rw [read]
    rfl
  constructor
  · intro storing
    cases storing with
    | pair =>
        unfold Storing.assigned?
        rw [bare]
        rfl
    | _ => rfl
  · intro reading
    cases reading with
    | taggedName =>
        unfold Reading.read?
        rw [bare]
        rfl
    | _ => rfl

/--
The spellings of a variable.  A document that assigns a variable an integer yields the integer and
assigns nothing else; a document that reads a variable yields its value, and fails if it has none.  So
what is assigned in one form is read in another if both have the same variable, and all have the same
for a name that is a string on its own.  A name that is anything else on its own is the variable that it
is written as once it has been read: `!store [K, 1]` and `!load K` still agree with each other, unless
the name is refused or null.
-/
theorem Loader.spellings_of_variable (extensions : List Extension) (limit : Option Nat)
    (host : Surroundings) (files : Dialogue.Files) (name : String) (nonempty : name ≠ "")
    (letters : ∀ c ∈ name.toList, Text.isWord c = true) (value : Int64) :
    let load (text : String) (store : Store) :=
      ((ofOptions extensions limit).load host (.text text)).run files store
    let failed (cause : Cause) : Option (Except ConfigError Value) :=
      some (.error ⟨[⟨none, ""⟩], cause⟩)
    (∀ (storing : Storing) (stored : String), storing.assigned? name = some stored → ∀ store,
      load (storing.text name value) store =
        (some (.ok (.integer value)), store.set stored (.integer value))) ∧
    (∀ (reading : Reading) (read : String), reading.read? name = some read → ∀ store,
      load (reading.text name) store =
        (match store.get? read with
          | some found => some (.ok found)
          | none => failed (.undefinedVariable read), store)) ∧
    (∀ (storing : Storing) (stored : String), storing.assigned? name = some stored →
      ∀ (reading : Reading) (read : String), reading.read? name = some read →
        let after := (load (storing.text name value) .empty).2
        load (reading.text name) after =
          (if stored = read then some (.ok (.integer value)) else failed (.undefinedVariable read),
            after) ∧
        load (reading.text name) .empty = (failed (.undefinedVariable read), .empty)) ∧
    match Scalar.plain name with
    | .ok (.string _) =>
        (∀ storing : Storing, storing.assigned? name = some name) ∧
          ∀ reading : Reading, reading.read? name = some name
    | .ok .null =>
        Storing.pair.assigned? name = some "null" ∧ ∀ store,
          load (Reading.taggedName.text name) store =
            (failed (Tag.load.mismatch (.noScalar .null)), store)
    | .ok _ =>
        ∃ key, Storing.pair.assigned? name = some key ∧ Reading.taggedName.read? name = some key
    | .error _ =>
        ∀ store, ∀ text ∈ [Storing.pair.text name value, Reading.taggedName.text name],
          ∃ message row column,
            load text store = (some (.error (.ofCause (.malformed message none row column))), store) := by
  intro load failed
  have named : IsName name.toList := ⟨fun none => nonempty (String.toList_eq_nil_iff.mp none), letters⟩
  have stores (storing : Storing) (stored : String) (assigned : storing.assigned? name = some stored)
      (store : Store) : load (storing.text name value) store =
        (some (.ok (.integer value)), store.set stored (.integer value)) :=
    load_storing extensions limit host files storing named value assigned store
  have reads (reading : Reading) (read : String) (found : reading.read? name = some read)
      (store : Store) : load (reading.text name) store =
        (match store.get? read with
          | some found => some (.ok found)
          | none => failed (.undefinedVariable read), store) := by
    have loaded : load (reading.text name) store = _ :=
      load_reading extensions limit host files reading named found store
    rw [loaded]
    unfold Store.get
    cases store.get? read with
    | none => rfl
    | some value => rfl
  refine ⟨stores, reads, ?_, ?_⟩
  · intro storing stored assigned reading read found
    constructor
    · rw [stores storing stored assigned, reads reading read found, Store.get?_set]
      by_cases same : stored = read
      · rw [if_pos same, if_pos same]
      · rw [if_neg same, if_neg same]
        rfl
    · exact reads reading read found .empty
  · cases read : Scalar.plain name with
    | error issue => exact load_bare_refused extensions limit host files named read value
    | ok node =>
        cases node with
        | null =>
            refine ⟨?_, load_bare_null extensions limit host files named read⟩
            unfold Storing.assigned? bareValue?
            rw [read]
            rfl
        | string text => exact variable_of_string read
        | _ => exact exists_bare_variable named read nofun

/-- An integer in base 16 is written in base 10, and that is the variable of two forms. -/
theorem Loader.spellings_of_variable_of_number :
    let load (text : String) (store : Store) :=
      (basic.load .atRoot (.text text)).run Dialogue.noFiles store
    let after := (load "!store [0x10, 7]" .empty).2
    load "!load 0x10" after = (some (.ok (.integer 7)), after) ∧
      load "$0x10" after =
        (some (.error ⟨[⟨none, ""⟩], .undefinedVariable "0x10"⟩), after) := by
  intro load after
  have letters : ∀ c ∈ "0x10".toList, Text.isWord c = true := by
    simp [Text.isWord, Char.isAlphanum, Char.isAlpha, Char.isUpper, Char.isLower, Char.isDigit]
  have agree :=
    (spellings_of_variable [] none .atRoot Dialogue.noFiles "0x10" (by decide) letters 7).2.2.1
  have stored : Storing.pair.assigned? "0x10" = some "16" := by
    cbv
  have read : Reading.taggedName.read? "0x10" = some "16" := by
    cbv
  refine ⟨?_, ?_⟩
  · exact (agree .pair "16" stored .taggedName "16" read).1
  · exact (agree .pair "16" stored .reference "0x10" rfl).1

/-- A name that is a boolean on its own is one variable in a pair, and another in a reference. -/
theorem Loader.spellings_differ :
    (∀ c ∈ "True".toList, Text.isWord c = true) ∧
      (basic.load .atRoot (.text "!store [True, 5]")).run Dialogue.noFiles Store.empty =
        (some (.ok (.integer 5)), ⟨[("true", .integer 5)]⟩) ∧
      (basic.load .atRoot (.text "$True")).run Dialogue.noFiles ⟨[("true", .integer 5)]⟩ =
        (some (.error ⟨[⟨none, ""⟩], .undefinedVariable "True"⟩), ⟨[("true", .integer 5)]⟩) := by
  refine ⟨?_, ?_, ?_⟩
  · simp [Text.isWord, Char.isAlphanum, Char.isAlpha, Char.isUpper, Char.isLower, Char.isDigit]
  · cbv
  · cbv

end TaggedConfig
