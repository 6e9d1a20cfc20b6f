import TaggedConfig.Proofs.Causes
import TaggedConfig.Proofs.DocumentOrder.Soundness

/-!
# Missing variables

A walk ends with the first read that finds nothing.  No other step of a walk fails with the cause of a
missing variable, so that this cause tells which read was the last.
-/

namespace TaggedConfig

def Cause.IsOther : Cause → Prop
  | .undefinedVariable _ => False
  | _ => True

theorem Cause.IsOwn.isOther {cause : Cause} (own : cause.IsOwn) : cause.IsOther := by
  cases cause with
  | undefinedVariable name => exact own
  | _ => exact trivial

theorem OnlyFails.isOther {α : Type} {result : Except Cause α}
    (own : OnlyFails Cause.IsOwn result) : OnlyFails Cause.IsOther result :=
  fun _ failed => (own _ failed).isOther

theorem Document.parse_isOther {text : String} {origin : Option Path} {error : ConfigError}
    (failed : Document.parse text origin = .error error) : error.cause.IsOther := by
  unfold Document.parse at failed
  split at failed <;> cases failed
  exact trivial

theorem Source.content_isOther (files : Dialogue.Files) (source : Source) :
    OnlyFails Cause.IsOther (source.content files) := by
  cases source with
  | text content => exact .ok content
  | file path => exact .mapError fun _ => trivial
  | stream bytes name => exact .mapError fun _ => trivial

theorem Source.read_isOther {files : Dialogue.Files} {source : Source} {error : ConfigError}
    (failed : source.read files = .error error) : error.cause.IsOther := by
  unfold Source.read at failed
  split at failed
  · exact Document.parse_isOther failed
  · rename_i unread
    cases failed
    exact source.content_isOther files _ unread

/-- Either every read finds something, or the last access is a read that finds nothing and fails. -/
inductive Conclusive {α : Type} : List Access → Except Stop α → Prop
  | answered {history : List Access} {result : Except Stop α}
      (found : ∀ name, .read name none ∉ history)
      (other : ∀ name, result ≠ .error (.failed (.undefinedVariable name))) :
      Conclusive history result
  | missing {before : List Access} (name : String) (found : ∀ other, .read other none ∉ before) :
      Conclusive (before ++ [.read name none]) (.error (.failed (.undefinedVariable name)))

namespace Conclusive

variable {α β : Type} {history before after : List Access}

theorem settled {result : Except Cause α} (others : OnlyFails Cause.IsOther result) :
    Conclusive [] (TaggedConfig.settled result) := by
  refine .answered (fun _ => List.not_mem_nil) fun name same => ?_
  cases result with
  | ok value => cases same
  | error cause =>
      cases same
      exact others _ rfl

theorem failed {cause : Cause} (other : cause.IsOther) :
    Conclusive [] (.error (.failed cause) : Except Stop α) :=
  settled (.error other)

theorem stop {stop : Stop} (conclusive : Conclusive history (.error stop : Except Stop α)) :
    Conclusive history (.error stop : Except Stop β) := by
  cases conclusive with
  | answered found other =>
      refine .answered found fun name same => other name ?_
      cases same
      rfl
  | missing name found => exact .missing name found

theorem found_of_ok {value : α} (conclusive : Conclusive history (.ok value : Except Stop α))
    (name : String) : .read name none ∉ history := by
  cases conclusive with
  | answered found other => exact found name

theorem append {value : α} {result : Except Stop β}
    (first : Conclusive before (.ok value : Except Stop α)) (second : Conclusive after result) :
    Conclusive (before ++ after) result := by
  have answered := first.found_of_ok
  cases second with
  | answered found other =>
      refine .answered (fun name member => ?_) other
      exact (List.mem_append.mp member).elim (answered name) (found name)
  | missing name found =>
      rw [← List.append_assoc]
      refine .missing name fun other member => ?_
      exact (List.mem_append.mp member).elim (answered other) (found other)

theorem map {result : Except Stop α} (conclusive : Conclusive history result) (change : α → β) :
    Conclusive history (result.map change) := by
  cases result with
  | ok value => exact .answered conclusive.found_of_ok (by simp [Except.map])
  | error stop => exact conclusive.stop

/-- A read finds nothing exactly if it is the last access and its variable is reported missing. -/
theorem missing_iff {result : Except Stop α} (conclusive : Conclusive history result)
    {name : String} {answer : Option Value}
    (happened : history = before ++ .read name answer :: after) :
    answer = none ↔ after = [] ∧ result = .error (.failed (.undefinedVariable name)) := by
  cases conclusive with
  | answered found other =>
      constructor
      · rintro rfl
        exact absurd (happened ▸ List.mem_append_right before List.mem_cons_self) (found name)
      · exact fun last => absurd last.2 (other name)
  | missing lastName found =>
      rcases List.eq_nil_or_concat after with rfl | ⟨between, last, rfl⟩
      · obtain ⟨-, same⟩ := List.append_inj' happened rfl
        cases same
        exact ⟨fun _ => ⟨rfl, rfl⟩, fun _ => rfl⟩
      · rw [List.concat_eq_append, ← List.cons_append, ← List.append_assoc] at happened
        obtain ⟨rfl, -⟩ := List.append_inj' happened rfl
        constructor
        · rintro rfl
          exact absurd (List.mem_append_right before List.mem_cons_self) (found name)
        · rintro ⟨ended, -⟩
          exact absurd ended (by simp)

end Conclusive

variable {loader : Loader} {host : Surroundings} {files : Dialogue.Files}

mutual

theorem NodeWalk.conclusive {here : Standpoint} {node : Yaml.Node} {history : List Access}
    {result : Except Stop Value} (walk : NodeWalk loader host files here node history result) :
    Conclusive history result := by
  match walk with
  | .null => exact .settled (.ok _)
  | .bool value => exact .settled (.ok _)
  | .integer value => exact .settled (.ok _)
  | .float value => exact .settled (.ok _)
  | .text asked => exact asked.conclusive fun result asked => (Request.ofText_isOwn asked).isOther
  | .sequence inner => exact inner.conclusive.map _
  | .mapping inner => exact inner.conclusive.map _
  | .unknownTag unknown => exact .failed trivial
  | .contentStop known collection inner => exact inner.conclusive.stop
  | .collection known collection inner asked =>
      exact inner.conclusive.append (asked.conclusive fun result asked => (Request.ofTag_isOwn asked).isOther)
  | .noLiteral known scalar unfit =>
      exact .failed (Value.ofNode_isOwn _ _ unfit).isOther
  | .scalar known scalar literal asked =>
      exact asked.conclusive fun result asked => (Request.ofTag_isOwn asked).isOther

theorem ItemsWalk.conclusive {here : Standpoint} {items : List Yaml.Node} {history : List Access}
    {result : Except Stop (List Value)}
    (walk : ItemsWalk loader host files here items history result) :
    Conclusive history result := by
  match walk with
  | .nil => exact .settled (.ok _)
  | .stop first => exact first.conclusive.stop
  | .cons first others => exact first.conclusive.append (others.conclusive.map _)

theorem EntriesWalk.conclusive {here : Standpoint} {entries : List (Yaml.Node × Yaml.Node)}
    {history : List Access} {result : Except Stop (List (String × Value))}
    (walk : EntriesWalk loader host files here entries history result) :
    Conclusive history result := by
  match walk with
  | .nil => exact .settled (.ok _)
  | .keyStop keyWalk => exact keyWalk.conclusive.stop
  | .noKey keyWalk unfit =>
      rw [← List.append_nil history]
      exact keyWalk.conclusive.append (.failed (Value.asKey_isOwn _ _ unfit).isOther)
  | .valueStop keyWalk fit valueWalk => exact keyWalk.conclusive.append valueWalk.conclusive.stop
  | .cons keyWalk fit valueWalk others =>
      exact keyWalk.conclusive.append (valueWalk.conclusive.append (others.conclusive.map _))

theorem RequestWalk.conclusive {here : Standpoint} {request : Request} {history : List Access}
    {result : Except Stop Value}
    (walk : RequestWalk loader host files here request history result)
    (others : ∀ result, request = .settled result → OnlyFails Cause.IsOther result) :
    Conclusive history result := by
  match walk with
  | .settled result => exact .settled (others result rfl)
  | .found name value => exact .answered (by simp) (by simp)
  | .missing name => exact .missing name fun _ => List.not_mem_nil
  | .assign name value => exact .answered (by simp) (by simp)
  | .textStop inner => exact inner.conclusive.stop
  | .assignText inner => exact inner.conclusive.append (.answered (by simp) (by simp))
  | .document inner => exact inner.conclusive

theorem ValueTextWalk.conclusive {here : Standpoint} {text : String} {history : List Access}
    {result : Except Stop Value} (walk : ValueTextWalk loader host files here text history result) :
    Conclusive history result := by
  match walk with
  | .implied shaped asked => exact asked.conclusive fun result asked => (Request.ofText_isOwn asked).isOther
  | .tagged ordinary begun inner => exact inner.conclusive
  | .literal ordinary untagged => exact .settled (.ok _)

theorem DocumentWalk.conclusive {here : Standpoint} {text : String} {history : List Access}
    {result : Except Stop Value} (walk : DocumentWalk loader host files here text history result) :
    Conclusive history result := by
  match walk with
  | .nameless untold => exact .failed trivial
  | .tooDeep named exceeded => exact .failed trivial
  | .unreadable named allowed read => exact .failed trivial
  | .malformed named allowed read parsed => exact .failed (Document.parse_isOther parsed)
  | .cutOff named allowed read parsed deep => exact .answered (by simp) (by simp)
  | .nested named allowed read parsed inner => exact inner.conclusive

end

theorem LoadWalk.conclusive {source : Source} {history : List Access} {result : Except Stop Value}
    (walk : LoadWalk loader host files source history result) : Conclusive history result := by
  cases walk with
  | unread failed => exact .failed (Source.read_isOther failed)
  | document read inner => exact inner.conclusive

end TaggedConfig
