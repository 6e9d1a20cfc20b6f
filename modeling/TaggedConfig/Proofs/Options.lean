import Mathlib
import TaggedConfig.Proofs.Widening

/-!
# Options of a loader

A deeper limit, or none, and the tag that selects by run mode can only turn a failure into something
else: the failure at the limit, and the failure of this tag where it is not known.  Every value stays,
and so does every other failure.
-/

namespace TaggedConfig

/-- A run that stops for this reason does so with every deeper limit and with every extension. -/
def Stop.Remains : Stop → Prop
  | .cutOff => False
  | .failed (.includeDepthExceeded _ _) => False
  | .failed (.unknownTag name) => name ≠ Tag.switchCommand.name
  | .failed _ => True

namespace Loader

variable {extensions others : List Extension} {limit deeper : Option Nat}

/-- A tag of a loader with extensions is a basic one, or the one that an extension adds. -/
theorem get?_ofOptions (extensions : List Extension) (limit : Option Nat) (name : String) :
    (ofOptions extensions limit).tags.get? name = (ofOptions [] limit).tags.get? name ∨
      name = Tag.switchCommand.name := by
  unfold ofOptions TagTable.ofExtensions TagTable.get?
  dsimp only
  rw [List.find?_append, List.find?_append]
  by_cases named : name = Tag.switchCommand.name
  · exact .inr named
  · refine .inl (congrArg _ ?_)
    refine (List.find?_eq_none.mpr fun tag found => ?_).trans rfl
    obtain ⟨extension, -, rfl⟩ := List.mem_map.mp (List.mem_eraseDups.mp found)
    cases extension with
    | switchCommand runMode => exact fun same => named (of_decide_eq_true same).symm

/-- Without extensions a loader knows the basic tags only. -/
theorem mem_basic_of_get? {name : String} {tag : Tag}
    (known : (ofOptions [] limit).tags.get? name = some tag) : tag ∈ Tag.basic :=
  List.mem_of_find?_eq_some known

/-- A tag that a loader without extensions knows is the same with extensions. -/
theorem get?_of_basic {name : String} {tag : Tag}
    (known : (ofOptions [] limit).tags.get? name = some tag) :
    (ofOptions others deeper).tags.get? name = some tag := by
  have found : Tag.basic.find? (fun tag => tag.name = name) = some tag := known
  unfold ofOptions TagTable.ofExtensions TagTable.get?
  rw [List.find?_append, found]
  rfl

/-- More extensions, if there were none, and a deeper limit widen a loader. -/
theorem ofOptions_widens (extended : extensions = [] ∨ others = extensions)
    (higher : ∀ most, deeper = some most → ∃ least, limit = some least ∧ least ≤ most) :
    (ofOptions extensions limit).Widens Stop.Remains 0 (ofOptions others deeper) where
  known name tag found := by
    rcases extended with rfl | rfl
    · exact get?_of_basic found
    · exact found
  unknown name missing remains := by
    rcases extended with rfl | rfl
    · rcases get?_ofOptions others deeper name with same | named
      · exact same.trans missing
      · exact absurd named remains
    · exact missing
  runMode name found := by
    rcases extended with rfl | rfl
    · exact absurd (mem_basic_of_get? found) (by decide)
    · rfl
  allowed depth within := by
    have suits : ∀ least, limit = some least → depth ≤ least := by
      rintro least rfl
      simpa [exceeds?, ofOptions] using within
    cases deeper with
    | none => rfl
    | some most =>
        obtain ⟨least, limited, fits⟩ := higher most rfl
        have deep := suits least limited
        have enough : depth ≤ most := deep.trans fits
        simpa [exceeds?, ofOptions] using enough
  exceeded depth least path beyond remains := absurd remains id

/-- A deeper limit comes with a larger allowance, and so does none where there is room. -/
theorem allowance_le_of_higher {host : Surroundings} {room : Nat}
    (higher : ∀ most, deeper = some most → ∃ least, limit = some least ∧ least ≤ most)
    (roomy : host.room ≤ room)
    (reached : ∀ least, limit = some least → deeper = none → least ≤ room + 1) :
    (ofOptions extensions limit).allowance host ≤
      (ofOptions others deeper).allowance { host with room := room } := by
  cases deeper with
  | some most =>
      obtain ⟨least, rfl, fits⟩ := higher most rfl
      exact Nat.succ_le_succ fits
  | none =>
      cases limit with
      | some least => exact Nat.succ_le_succ (reached least rfl rfl)
      | none => exact Nat.add_le_add_right roomy 2

/--
A loader with more options comes to the value that a loader with fewer options comes to, and leaves the
same store: with a deeper limit or none, and with an extension where the other has none.  It also fails
alike, unless that is for the limit or for the tag that the extension adds.  This holds with every
allowance for nested documents, so that it holds of loading wherever a loader without a limit has room
for as many documents as the limit allows.
-/
theorem load_of_more_options (extensions others : List Extension) (limit deeper : Option Nat)
    (extended : extensions = [] ∨ others = extensions)
    (higher : ∀ most, deeper = some most → ∃ least, limit = some least ∧ least ≤ most)
    (host : Surroundings) (files : Dialogue.Files) (store : Store) (source : Source) :
    let narrow := ofOptions extensions limit
    let wide := ofOptions others deeper
    (∀ (allowance larger : Nat) (result : Except ConfigError Value) (left : Store),
        allowance ≤ larger →
          (narrow.loadWithin host allowance source).run files store = (some result, left) →
            (∀ error, result = .error error → Stop.Remains (.failed error.cause)) →
              (wide.loadWithin host larger source).run files store = (some result, left)) ∧
      ∀ room, host.room ≤ room →
        (∀ least, limit = some least → deeper = none → least ≤ room + 1) →
          ∀ (value : Value) (left : Store),
            (narrow.load host source).run files store = (some (.ok value), left) →
              (wide.load { host with room := room } source).run files store =
                (some (.ok value), left) := by
  intro narrow wide
  have widens : narrow.Widens Stop.Remains 0 wide := ofOptions_widens extended higher
  have kept (allowance larger : Nat) (result : Except ConfigError Value) (left : Store)
      (enough : allowance ≤ larger)
      (ran : (narrow.loadWithin host allowance source).run files store = (some result, left))
      (remains : ∀ error, result = .error error → Stop.Remains (.failed error.cause)) :
      (wide.loadWithin host larger source).run files store = (some result, left) :=
    (loadWithin_keepsRuns widens enough False.elim source).run_eq ran remains
  refine ⟨kept, fun room roomy reached value left loaded => ?_⟩
  rw [load_eq_loadWithin] at loaded
  rw [load_eq_loadWithin, loadWithin_withRoom]
  refine kept _ _ _ left ?_ loaded fun error failed => ?_
  · exact allowance_le_of_higher higher roomy reached
  · cases failed

/-- An included number is loaded alike without a limit and with a run mode. -/
theorem load_of_more_options_of_include :
    let extensions : List Extension := [.switchCommand (some "fit")]
    let files : Dialogue.Files := fun _ => .ok "1"
    let source : Source := .text "!include f"
    let value : Value := .integer 1
    ((ofOptions [] (some 1)).load .atRoot source).run files Store.empty =
        (some (.ok value), Store.empty) ∧
      ((ofOptions extensions none).load .atRoot source).run files Store.empty =
        (some (.ok value), Store.empty) := by
  intro extensions files source value
  have loaded : ((ofOptions [] (some 1)).load .atRoot source).run files Store.empty =
      (some (.ok value), Store.empty) := by
    cbv
  have small : ∀ least, some 1 = some least → (none : Option Nat) = none →
      least ≤ Surroundings.atRoot.room + 1 := by
    rintro least ⟨⟩ -
    decide
  obtain ⟨-, wider⟩ := load_of_more_options [] extensions (some 1) none (.inl rfl)
    (fun most absent => by cases absent) .atRoot files Store.empty source
  exact ⟨loaded, wider _ le_rfl small value _ loaded⟩

end Loader

end TaggedConfig
