import TaggedConfig.Loader

/-!
# Requests

A text that implies a tag, and a tag with its content, ask for one thing: a result that needs nothing
else, an access to a variable, the value of a text, or the value of another document.
-/

namespace TaggedConfig

/-- What a text or a tag asks for. -/
inductive Request where
  /-- A result that needs nothing else. -/
  | settled (result : Except Cause Value)
  | lookUp (name : String)
  | assign (name : String) (value : Value)
  /-- Assign a variable the value of a text. -/
  | assignText (name valueText : String)
  | document (text : String)

namespace Request

def ofText (text : String) : Request :=
  match Implicit.ofText? text with
  | none => .settled (.ok (.string text))
  | some (.assignment name valueText) => .assignText name valueText
  | some (.reference name) => .lookUp name

def ofStore (input : Value) : Request :=
  let mismatch (issue : Mismatch) : Request := .settled (.error (Tag.store.mismatch issue))
  match input with
  | .string text =>
      match Implicit.assignment? text with
      | some (name, valueText) => .assignText name valueText
      | none => mismatch (.noAssignment text)
  | .sequence [name, value] =>
      match name.key? with
      | some key => .assign key value
      | none => mismatch (.noVariableName name.kind)
  | .sequence items => mismatch (.noPair items.length)
  | other => mismatch (.notAssignable other)

def ofLoad (input : Value) : Request :=
  match Tag.load.scalarText input with
  | .ok text => .lookUp ((Implicit.reference? text).getD text)
  | .error cause => .settled (.error cause)

def ofInclude (input : Value) : Request :=
  match Tag.includeFile.scalarText input with
  | .ok text => .document text
  | .error cause => .settled (.error cause)

def ofTag (loader : Loader) (host : Surroundings) (directory : Path) (tag : Tag) (input : Value) :
    Request :=
  match tag with
  | .dateTime => .settled (Scope.renderTemplate host.now input)
  | .product => .settled input.product
  | .sum => .settled input.sum
  | .join => .settled input.join
  | .pathJoin => .settled input.pathJoin
  | .absPath => .settled (input.absPath host.workingDirectory directory)
  | .absPathJoin => .settled (input.absPathJoin host.workingDirectory directory)
  | .includeFile => ofInclude input
  | .store => ofStore input
  | .load => ofLoad input
  | .switchCommand => .settled (Scope.selectCase loader.runMode input)

def answer (scope : Scope) (onValueText : Scope.OnValueText) : Request → Resolving Value
  | .settled result => .ofExcept result
  | .lookUp name => .lookUp name
  | .assign name value => .assign name value
  | .assignText name valueText => Scope.assignText onValueText name valueText
  | .document text => (scope.includeText text).mapError fun error => ⟨[], error⟩

variable (scope : Scope) (onValueText : Scope.OnValueText)

theorem answer_ofText (text : String) :
    (ofText text).answer scope onValueText = Scope.resolveText onValueText text := by
  unfold ofText Scope.resolveText
  match Implicit.ofText? text with
  | none => rfl
  | some (.assignment name valueText) => rfl
  | some (.reference name) => rfl

theorem answer_ofStore (input : Value) :
    (ofStore input).answer scope onValueText = Scope.applyStore onValueText input := by
  unfold ofStore Scope.applyStore
  match input with
  | .string text =>
      dsimp only
      match Implicit.assignment? text with
      | some (name, valueText) => rfl
      | none => rfl
  | .sequence [name, value] =>
      dsimp only
      match name.key? with
      | some key => rfl
      | none => rfl
  | .sequence [] => rfl
  | .sequence [_] => rfl
  | .sequence (_ :: _ :: _ :: _) => rfl
  | .null => rfl
  | .bool _ => rfl
  | .integer _ => rfl
  | .float _ => rfl
  | .mapping _ => rfl

theorem answer_ofLoad (input : Value) :
    (ofLoad input).answer scope onValueText = Scope.applyLoad input := by
  unfold ofLoad Scope.applyLoad
  cases Tag.load.scalarText input with
  | ok text => rfl
  | error cause => rfl

theorem answer_ofInclude (input : Value) :
    (ofInclude input).answer scope onValueText = scope.applyInclude input := by
  unfold ofInclude Scope.applyInclude
  cases Tag.includeFile.scalarText input with
  | ok text => rfl
  | error cause => rfl

/-- A tag is applied by meeting its request. -/
theorem answer_ofTag (loader : Loader) (host : Surroundings) (directory : Path)
    (includeText : String → Dialogue ConfigError Value) (tag : Tag) (input : Value) :
    (ofTag loader host directory tag input).answer
        (loader.scopeFor host directory includeText) onValueText =
      (loader.scopeFor host directory includeText).applyTag onValueText tag input := by
  cases tag with
  | includeFile => exact answer_ofInclude _ _ input
  | store => exact answer_ofStore _ _ input
  | load => exact answer_ofLoad _ _ input
  | dateTime => rfl
  | product => rfl
  | sum => rfl
  | join => rfl
  | pathJoin => rfl
  | absPath => rfl
  | absPathJoin => rfl
  | switchCommand => rfl

end Request

/-- A scalar is resolved by meeting the request of its text. -/
theorem Scope.resolveNode_string (scope : Scope) (onValueText : OnValueText) (text : String) :
    scope.resolveNode onValueText (.string text) =
      (Request.ofText text).answer scope onValueText := by
  rw [resolveNode, Request.answer_ofText]

namespace Request

theorem ofStore_cases (input : Value) :
    (∃ issue, ofStore input = .settled (.error (Tag.store.mismatch issue))) ∨
      (∃ name value, ofStore input = .assign name value) ∨
      ∃ text name valueText, input = .string text ∧
        Implicit.assignment? text = some (name, valueText) ∧
        ofStore input = .assignText name valueText := by
  unfold ofStore
  split
  · rename_i text
    split
    · rename_i name valueText found
      exact .inr (.inr ⟨text, name, valueText, rfl, found, rfl⟩)
    · exact .inl ⟨_, rfl⟩
  · split
    · exact .inr (.inl ⟨_, _, rfl⟩)
    · exact .inl ⟨_, rfl⟩
  · exact .inl ⟨_, rfl⟩
  · exact .inl ⟨_, rfl⟩

theorem ofLoad_cases (input : Value) :
    (∃ name, ofLoad input = .lookUp name) ∨
      ∃ cause, Tag.load.scalarText input = .error cause ∧
        ofLoad input = .settled (.error cause) := by
  unfold ofLoad
  cases Tag.load.scalarText input with
  | ok text => exact .inl ⟨_, rfl⟩
  | error cause => exact .inr ⟨cause, rfl, rfl⟩

theorem ofInclude_cases (input : Value) :
    (∃ text, ofInclude input = .document text) ∨
      ∃ cause, Tag.includeFile.scalarText input = .error cause ∧
        ofInclude input = .settled (.error cause) := by
  unfold ofInclude
  cases Tag.includeFile.scalarText input with
  | ok text => exact .inl ⟨text, rfl⟩
  | error cause => exact .inr ⟨cause, rfl, rfl⟩

variable {loader : Loader} {host : Surroundings} {directory : Path} {tag : Tag} {input : Value}

/-- Only one tag asks for the value of a text, which then is behind the arrow in its content. -/
theorem ofTag_eq_assignText {name valueText : String}
    (asked : ofTag loader host directory tag input = .assignText name valueText) :
    tag = .store ∧
      ∃ text, input = .string text ∧ Implicit.assignment? text = some (name, valueText) := by
  cases tag with
  | store =>
      rcases ofStore_cases input with ⟨_, same⟩ | ⟨_, _, same⟩ | ⟨text, _, _, written, found, same⟩
      · cases same.symm.trans asked
      · cases same.symm.trans asked
      · cases same.symm.trans asked
        exact ⟨rfl, text, written, found⟩
  | load =>
      rcases ofLoad_cases input with ⟨_, same⟩ | ⟨_, _, same⟩
      · cases same.symm.trans asked
      · cases same.symm.trans asked
  | includeFile =>
      rcases ofInclude_cases input with ⟨_, same⟩ | ⟨_, _, same⟩
      · cases same.symm.trans asked
      · cases same.symm.trans asked
  | dateTime => cases asked
  | product => cases asked
  | sum => cases asked
  | join => cases asked
  | pathJoin => cases asked
  | absPath => cases asked
  | absPathJoin => cases asked
  | switchCommand => cases asked

theorem ofTag_eq_document {text : String}
    (asked : ofTag loader host directory tag input = .document text) : tag = .includeFile := by
  cases tag with
  | includeFile => rfl
  | store =>
      rcases ofStore_cases input with ⟨_, same⟩ | ⟨_, _, same⟩ | ⟨_, _, _, _, _, same⟩
      · cases same.symm.trans asked
      · cases same.symm.trans asked
      · cases same.symm.trans asked
  | load =>
      rcases ofLoad_cases input with ⟨_, same⟩ | ⟨_, _, same⟩
      · cases same.symm.trans asked
      · cases same.symm.trans asked
  | dateTime => cases asked
  | product => cases asked
  | sum => cases asked
  | join => cases asked
  | pathJoin => cases asked
  | absPath => cases asked
  | absPathJoin => cases asked
  | switchCommand => cases asked

theorem ofText_ne_document (text other : String) : ofText text ≠ .document other := by
  unfold ofText
  split <;> exact nofun

/-- A text asks for the value of another only if it has an arrow in front of that. -/
theorem ofText_eq_assignText {text name valueText : String}
    (asked : ofText text = .assignText name valueText) :
    Implicit.assignment? text = some (name, valueText) := by
  unfold ofText Implicit.ofText? at asked
  match found : Implicit.assignment? text with
  | some (otherName, otherText) =>
      rw [found] at asked
      cases asked
      rfl
  | none =>
      rw [found] at asked
      dsimp only at asked
      cases referred : Implicit.reference? text <;> rw [referred] at asked <;> cases asked

end Request

end TaggedConfig
