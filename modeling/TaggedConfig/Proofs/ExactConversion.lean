import TaggedConfig.Config.Access
import TaggedConfig.Proofs.Fallible
import TaggedConfig.Proofs.Number.FloatText

/-!
# Exact conversions

A target without fractions is a part of the values: each of its elements stands for one value, except
for integers that are too large to be stored.  Conversion to such a target turns this around.  It
succeeds on the values that the target has elements for and on no others, and it refuses any other
value because of the first part that does not fit, in the order of the items and entries.
-/

namespace TaggedConfig

namespace Target

/-- A target that no other kind of value is converted to. -/
def isExact : Target → Bool
  | .double | .single => false
  | .list item => item.isExact
  | .string | .bool | .integer | .narrow _ | .mapping | .textMapping => true

/-- The value that an element of a target stands for. -/
def embed? : (target : Target) → target.Carrier → Option Value
  | .string, text => some (.string text)
  | .bool, value => some (.bool value)
  | .double, value => some (.float value)
  | .single, value => some (.float value.convert)
  | .integer, value => some (.integer value)
  | .narrow _, value => (int64? value.val).map .integer
  | .mapping, entries => some (.mapping entries)
  | .textMapping, entries => some (.mapping (entries.map fun entry => (entry.1, .string entry.2)))
  | .list item, values => (values.mapM item.embed?).map .sequence

def Embeds (target : Target) (value : Value) : Prop :=
  ∃ element, target.embed? element = some value

theorem toText_eq_ok_iff {value : Value} {text : String} :
    toText value = .ok text ↔ value = .string text := by
  constructor
  · intro converted
    cases value with
    | string held => cases converted; rfl
    | _ => cases converted
  · rintro rfl
    rfl

theorem toTexts_eq_ok_iff {entries : Entries Value} {texts : Entries String} :
    toTexts entries = .ok texts ↔ texts.map (fun entry => (entry.1, .string entry.2)) = entries := by
  have inverse : ∀ (entry : String × Value) (text : String × String),
      (do return (entry.1, ← toText entry.2) : Except Cause (String × String)) = .ok text ↔
        some (text.1, Value.string text.2) = some entry := by
    rintro ⟨key, value⟩ ⟨other, text⟩
    constructor
    · intro converted
      obtain ⟨held, found, same⟩ := exists_of_bind_eq_ok converted
      obtain rfl := toText_eq_ok_iff.mp found
      cases same
      rfl
    · intro same
      cases same
      rfl
  rw [toTexts, mapM_eq_ok_iff inverse]
  change texts.mapM (fun text => pure (text.1, Value.string text.2)) = some entries ↔ _
  rw [List.mapM_pure]
  exact Option.some_inj

theorem toNarrow_eq_ok_iff {type : IntegerType} {value : Value} {element : type.Carrier} :
    toNarrow type value = .ok element ↔
      ∃ stored : Int64, value = .integer stored ∧ stored.toInt = element.val := by
  constructor
  · intro converted
    cases value with
    | integer stored =>
        unfold toNarrow IntegerType.ofInt? at converted
        dsimp only at converted
        split at converted
        · rename_i found
          split at found
          · cases found
            cases converted
            exact ⟨stored, rfl, rfl⟩
          · cases found
        · cases converted
    | _ => cases converted
  · rintro ⟨stored, rfl, same⟩
    obtain ⟨value, fits⟩ := element
    dsimp only at same
    subst same
    unfold toNarrow IntegerType.ofInt?
    dsimp only
    rw [dif_pos fits]

theorem embed?_narrow_iff {type : IntegerType} {element : type.Carrier} {value : Value} :
    embed? (.narrow type) element = some value ↔
      ∃ stored : Int64, value = .integer stored ∧ stored.toInt = element.val := by
  constructor
  · intro embedded
    obtain ⟨stored, found, rfl⟩ := Option.map_eq_some_iff.mp embedded
    exact ⟨stored, rfl, int64?_eq_some_iff.mp found⟩
  · rintro ⟨stored, rfl, same⟩
    exact Option.map_eq_some_iff.mpr ⟨stored, int64?_eq_some_iff.mpr same, rfl⟩

/-- Conversion to an exact target finds the element that stands for a value. -/
theorem convert_eq_ok_iff {target : Target} (exact : target.isExact = true) {value : Value}
    {element : target.Carrier} :
    target.convert value = .ok element ↔ target.embed? element = some value := by
  induction target generalizing value with
  | string => exact toText_eq_ok_iff.trans (eq_comm.trans Option.some_inj.symm)
  | bool =>
      cases value with
      | bool held => simp [convert, embed?, eq_comm]
      | _ => simp [convert, embed?]
  | double | single => cases exact
  | integer =>
      cases value with
      | integer held => simp [convert, embed?, eq_comm]
      | _ => simp [convert, embed?]
  | narrow type => exact toNarrow_eq_ok_iff.trans embed?_narrow_iff.symm
  | mapping =>
      cases value with
      | mapping entries => simp [convert, embed?, eq_comm]
      | _ => simp [convert, embed?]
  | textMapping =>
      cases value with
      | mapping entries =>
          refine toTexts_eq_ok_iff.trans ?_
          simp [embed?]
      | _ => simp [convert, embed?]
  | list item ih =>
      cases value with
      | sequence items =>
          refine (mapM_eq_ok_iff fun _ _ => ih exact).trans ?_
          simp [embed?]
      | _ => simp [convert, embed?]

theorem embeds_iff {target : Target} (exact : target.isExact = true) {value : Value} :
    target.Embeds value ↔ ∃ element, target.convert value = .ok element :=
  exists_congr fun _ => (convert_eq_ok_iff exact).symm

/-- The form that a target asks of a value, whatever the value's items and entries are. -/
def admits : Target → Value → Bool
  | .string, .string _ | .bool, .bool _ | .integer, .integer _ => true
  | .double, .integer _ | .double, .float _ | .single, .integer _ | .single, .float _ => true
  | .narrow type, .integer value => type.least ≤ value.toInt ∧ value.toInt < type.bound
  | .mapping, .mapping _ | .textMapping, .mapping _ | .list _, .sequence _ => true
  | _, _ => false

def description : Target → String
  | .string => "string"
  | .bool => "bool"
  | .double | .single => "number"
  | .integer => "integer"
  | .narrow type => type.name
  | .mapping | .textMapping => "mapping"
  | .list _ => "sequence"

structure Misfit where
  wanted : Target
  part : Value

/-- A misfit is complained about by the kind and the text of the part. -/
def Misfit.cause (misfit : Misfit) : Cause :=
  .conversion misfit.wanted.description
    (misfit.part.kind.name ++ " `" ++ misfit.part.display ++ "`")

/-- The first part of a value that does not fit: everything before it does. -/
inductive FirstMisfit : Target → Value → Misfit → Prop
  | here {target : Target} {value : Value} (refused : target.admits value = false) :
      FirstMisfit target value ⟨target, value⟩
  | item {target : Target} {before after : List Value} {value : Value} {misfit : Misfit}
      (fit : ∀ earlier ∈ before, target.Embeds earlier)
      (inner : FirstMisfit target value misfit) :
      FirstMisfit (.list target) (.sequence (before ++ value :: after)) misfit
  | entry {before after : Entries Value} {key : String} {value : Value} {misfit : Misfit}
      (fit : ∀ earlier ∈ before, Target.string.Embeds earlier.2)
      (inner : FirstMisfit .string value misfit) :
      FirstMisfit .textMapping (.mapping (before ++ (key, value) :: after)) misfit

theorem convert_of_not_admits {target : Target} {value : Value}
    (refused : target.admits value = false) :
    target.convert value = .error (Misfit.cause ⟨target, value⟩) := by
  cases target with
  | string =>
      cases value with
      | string text => cases refused
      | _ => rfl
  | bool =>
      cases value with
      | bool held => cases refused
      | _ => rfl
  | double | single =>
      cases value with
      | integer stored | float held => cases refused
      | _ => rfl
  | integer =>
      cases value with
      | integer stored => cases refused
      | _ => rfl
  | narrow type =>
      cases value with
      | integer stored =>
          have outside : ¬(type.least ≤ stored.toInt ∧ stored.toInt < type.bound) :=
            of_decide_eq_false refused
          unfold convert toNarrow IntegerType.ofInt?
          dsimp only
          rw [dif_neg outside]
          rfl
      | _ => rfl
  | mapping | textMapping =>
      cases value with
      | mapping entries => cases refused
      | _ => rfl
  | list item =>
      cases value with
      | sequence items => cases refused
      | _ => rfl

theorem admits_of_toText {value : Value} {cause : Cause} (refused : toText value = .error cause) :
    Target.string.admits value = false := by
  cases value with
  | string text => cases refused
  | _ => rfl

theorem exists_firstMisfit {target : Target} (exact : target.isExact = true) {value : Value}
    {cause : Cause} (refused : target.convert value = .error cause) :
    ∃ misfit, FirstMisfit target value misfit := by
  induction target generalizing value cause with
  | string => exact ⟨_, .here (admits_of_toText refused)⟩
  | bool =>
      cases value with
      | bool held => cases refused
      | _ => exact ⟨_, .here rfl⟩
  | double | single => cases exact
  | integer =>
      cases value with
      | integer stored => cases refused
      | _ => exact ⟨_, .here rfl⟩
  | narrow type =>
      cases value with
      | integer stored =>
          refine ⟨_, .here (decide_eq_false fun fits => ?_)⟩
          unfold convert toNarrow IntegerType.ofInt? at refused
          dsimp only at refused
          rw [dif_pos fits] at refused
          cases refused
      | _ => exact ⟨_, .here rfl⟩
  | mapping =>
      cases value with
      | mapping entries => cases refused
      | _ => exact ⟨_, .here rfl⟩
  | textMapping =>
      cases value with
      | mapping entries =>
          obtain ⟨before, ⟨key, value⟩, after, rfl, fine, refused⟩ := mapM_eq_error_iff.mp refused
          have unfit : Target.string.admits value = false := by
            cases value with
            | string text => cases refused
            | _ => rfl
          refine ⟨_, .entry (fun earlier found => ?_) (.here unfit)⟩
          obtain ⟨text, converted⟩ := fine earlier found
          obtain ⟨held, same, -⟩ := exists_of_bind_eq_ok converted
          exact ⟨held, congrArg some (toText_eq_ok_iff.mp same).symm⟩
      | _ => exact ⟨_, .here rfl⟩
  | list item ih =>
      cases value with
      | sequence items =>
          obtain ⟨before, value, after, rfl, fine, refused⟩ := mapM_eq_error_iff.mp refused
          have itemExact : item.isExact = true := exact
          obtain ⟨misfit, inner⟩ := ih itemExact refused
          refine ⟨misfit, .item (fun earlier found => ?_) inner⟩
          exact (embeds_iff itemExact).mpr (fine earlier found)
      | _ => exact ⟨_, .here rfl⟩

namespace FirstMisfit

variable {target : Target} {value : Value} {misfit : Misfit}

/-- The first part that does not fit is the one that is complained about. -/
theorem convert_eq (first : FirstMisfit target value misfit) (exact : target.isExact = true) :
    target.convert value = .error misfit.cause := by
  induction first with
  | here refused => exact convert_of_not_admits refused
  | @item item before after value misfit fit inner ih =>
      have itemExact : item.isExact = true := exact
      refine mapM_eq_error_iff.mpr ⟨before, value, after, rfl, ?_, ih itemExact⟩
      exact fun earlier found => (embeds_iff itemExact).mp (fit earlier found)
  | @entry before after key value misfit fit inner ih =>
      refine mapM_eq_error_iff.mpr ⟨before, (key, value), after, rfl, fun earlier found => ?_, ?_⟩
      · obtain ⟨text, same⟩ := fit earlier found
        obtain ⟨other, held⟩ := earlier
        cases same
        exact ⟨(other, text), rfl⟩
      · have refused : toText value = .error misfit.cause := ih rfl
        dsimp only
        rw [refused]
        rfl

theorem not_embeds (first : FirstMisfit target value misfit) (exact : target.isExact = true) :
    ¬target.Embeds value := by
  intro fits
  obtain ⟨element, converted⟩ := (embeds_iff exact).mp fits
  rw [first.convert_eq exact] at converted
  cases converted

theorem of_list {items : List Value} (first : FirstMisfit (.list target) (.sequence items) misfit) :
    ∃ before value after, items = before ++ value :: after ∧
      (∀ earlier ∈ before, target.Embeds earlier) ∧ FirstMisfit target value misfit := by
  generalize whole : Value.sequence items = value at first
  cases first with
  | here refused =>
      subst whole
      cases refused
  | item fit inner =>
      cases whole
      exact ⟨_, _, _, rfl, fit, inner⟩

theorem of_textMapping {entries : Entries Value}
    (first : FirstMisfit .textMapping (.mapping entries) misfit) :
    ∃ before key value after, entries = before ++ (key, value) :: after ∧
      (∀ earlier ∈ before, Target.string.Embeds earlier.2) ∧
      FirstMisfit .string value misfit := by
  generalize whole : Value.mapping entries = value at first
  cases first with
  | here refused =>
      subst whole
      cases refused
  | entry fit inner =>
      cases whole
      exact ⟨_, _, _, _, rfl, fit, inner⟩

theorem eq_of_first_unfit {α : Type} {fits : α → Prop} {before after others rest : List α}
    {item other : α} (same : before ++ item :: after = others ++ other :: rest)
    (fit : ∀ earlier ∈ before, fits earlier) (fitToo : ∀ earlier ∈ others, fits earlier)
    (unfit : ¬fits item) (unfitToo : ¬fits other) : item = other := by
  classical
  have first : (before ++ item :: after).find? (fun item => ¬fits item) = some item :=
    List.find?_eq_some_iff_append.mpr ⟨by simpa, before, after, rfl, by simpa using fit⟩
  have second : (before ++ item :: after).find? (fun item => ¬fits item) = some other :=
    List.find?_eq_some_iff_append.mpr ⟨by simpa, others, rest, same, by simpa using fitToo⟩
  exact Option.some.inj (first.symm.trans second)

theorem unique (first : FirstMisfit target value misfit) {other : Misfit}
    (also : FirstMisfit target value other) (exact : target.isExact = true) : other = misfit := by
  induction first with
  | here refused =>
      cases also with
      | here _ => rfl
      | item fit inner => cases refused
      | entry fit inner => cases refused
  | item fit inner ih =>
      obtain ⟨before, value, after, same, fitToo, innerToo⟩ := of_list also
      have here := eq_of_first_unfit same fit fitToo (inner.not_embeds exact)
        (innerToo.not_embeds exact)
      subst here
      exact ih innerToo exact
  | entry fit inner ih =>
      obtain ⟨before, key, value, after, same, fitToo, innerToo⟩ := of_textMapping also
      have here := eq_of_first_unfit same fit fitToo (inner.not_embeds rfl)
        (innerToo.not_embeds rfl)
      cases here
      exact ih innerToo rfl

end FirstMisfit

theorem get_of_getValue {config : Config} {path : String} {value : Value}
    (found : config.getValue path = .ok value) (target : Target) :
    config.get target path =
      (target.convert value).mapError fun cause => ⟨[config.locate path], cause⟩ := by
  unfold Config.get
  rw [found]
  dsimp only [bind, Except.bind]
  cases target.convert value with
  | ok element => rfl
  | error cause => rfl

/--
Conversion to a target without fractions is exact.  A value is converted to the element that stands
for it; if there is none, the value has one first part that does not fit, and the error is about this
part and has no location.  The value at a path of a configuration is converted in the same way, and the
error has the path as its only location then.
-/
theorem converts_exactly (target : Target) (exact : target.isExact = true) (value : Value) :
    (∀ element, target.convert value = .ok element ↔ target.embed? element = some value) ∧
      ((∀ element, target.embed? element ≠ some value) →
        ∃! misfit, FirstMisfit target value misfit) ∧
      (∀ misfit, FirstMisfit target value misfit →
        target.convert value = .error misfit.cause) ∧
      ∀ (config : Config) (path : String), config.getValue path = .ok value →
        (∃ element, target.embed? element = some value ∧ config.get target path = .ok element) ∨
          ∃ misfit, FirstMisfit target value misfit ∧
            config.get target path = .error ⟨[⟨config.origin, path⟩], misfit.cause⟩ := by
  refine ⟨fun _ => convert_eq_ok_iff exact, fun unfit => ?_, fun _ first => first.convert_eq exact,
    fun config path found => ?_⟩
  · cases converted : target.convert value with
    | ok element => exact absurd ((convert_eq_ok_iff exact).mp converted) (unfit element)
    | error cause =>
        obtain ⟨misfit, first⟩ := exists_firstMisfit exact converted
        exact ⟨misfit, first, fun _ also => first.unique also exact⟩
  · rw [get_of_getValue found]
    cases converted : target.convert value with
    | ok element => exact .inl ⟨element, (convert_eq_ok_iff exact).mp converted, rfl⟩
    | error cause =>
        obtain ⟨misfit, first⟩ := exists_firstMisfit exact converted
        rw [first.convert_eq exact] at converted
        cases converted
        exact .inr ⟨misfit, first, rfl⟩

/-- A port that is too large is found behind others, and before a part that is no integer at all. -/
theorem converts_exactly_of_large_port :
    let target : Target := .list (.list (.narrow .unsigned16))
    let value : Value :=
      .sequence [.sequence [.integer 0, .integer 65535], .sequence [.integer 65536, .null], .null]
    let config : Config := ⟨[("net-io", .mapping [("ports", value)])], some ⟨"a.yaml"⟩⟩
    let cause : Cause := .conversion "16-bit unsigned integer" "integer `65536`"
    target.isExact = true ∧ config.getValue "net_io.ports" = .ok value ∧
      FirstMisfit target value ⟨.narrow .unsigned16, .integer 65536⟩ ∧
      (∀ element, target.embed? element ≠ some value) ∧ target.convert value = .error cause ∧
      config.get target "net_io.ports" = .error ⟨[⟨some ⟨"a.yaml"⟩, "net_io.ports"⟩], cause⟩ := by
  intro target value config cause
  have found : config.getValue "net_io.ports" = .ok value := rfl
  have large : FirstMisfit target value ⟨.narrow .unsigned16, .integer 65536⟩ := by
    have inner : FirstMisfit (.list (.narrow .unsigned16)) (.sequence [.integer 65536, .null])
        ⟨.narrow .unsigned16, .integer 65536⟩ :=
      @FirstMisfit.item _ [] _ _ _ nofun (.here rfl)
    refine @FirstMisfit.item _ [.sequence [.integer 0, .integer 65535]] _ _ _ ?_ inner
    intro earlier listed
    cases List.mem_singleton.mp listed
    exact ⟨[⟨0, by decide⟩, ⟨65535, by decide⟩], rfl⟩
  obtain ⟨converts, -, refuses, located⟩ := converts_exactly target rfl value
  have named : Misfit.cause ⟨.narrow .unsigned16, .integer 65536⟩ = cause := by cbv
  have refused : target.convert value = .error cause := named ▸ refuses _ large
  have unfit (element : target.Carrier) : target.embed? element ≠ some value := by
    intro embedded
    rw [(converts element).mpr embedded] at refused
    cases refused
  refine ⟨rfl, found, large, unfit, refused, ?_⟩
  rcases located config "net_io.ports" found with ⟨element, embedded, -⟩ | ⟨misfit, first, failed⟩
  · exact absurd embedded (unfit element)
  · rw [failed, large.unique first rfl, named]

end Target

end TaggedConfig
