import Mathlib.Data.Set.List
import TaggedConfig.Proofs.Fallible
import TaggedConfig.Proofs.RunningTotals

/-!
# Totals of nested sequences

A sum or a product sees the leaves of a sequence, from left to right, and nothing of how they are
nested.  The first leaf that is no number is complained about before anything is added up.  As a total
of integers is exact, a group of them can be replaced by its own total.
-/

namespace TaggedConfig

namespace Value

/-- An integer or a number with a fraction. -/
def IsNumber : Value → Prop
  | .integer _ | .float _ => True
  | _ => False

instance : DecidablePred IsNumber
  | .integer _ | .float _ => isTrue trivial
  | .null | .bool _ | .string _ | .sequence _ | .mapping _ => isFalse id

theorem isNumber_iff {value : Value} : value.IsNumber ↔ value ∈ Set.range Number.toValue := by
  constructor
  · intro number
    cases value with
    | integer value => exact ⟨.integer value, rfl⟩
    | float value => exact ⟨.float value, rfl⟩
    | null | bool | string | sequence | mapping => exact number.elim
  · rintro ⟨integer | float, rfl⟩
    · trivial
    · trivial

/-- Values unfold to leaves when every nested sequence is replaced by what is in it. -/
inductive Unfolds : List Value → List Value → Prop
  | nil : Unfolds [] []
  | leaf {value : Value} {rest leaves : List Value} (single : value.items? = none)
      (later : Unfolds rest leaves) : Unfolds (value :: rest) (value :: leaves)
  | nested {items inner rest leaves : List Value} (here : Unfolds items inner)
      (later : Unfolds rest leaves) : Unfolds (.sequence items :: rest) (inner ++ leaves)

theorem leaves_eq_singleton {value : Value} (single : value.items? = none) :
    value.leaves = [value] := by
  cases value with
  | sequence items => cases single
  | _ => rfl

theorem unfolds_leavesOfItems : (items : List Value) → Unfolds items (leavesOfItems items)
  | [] => .nil
  | value :: rest => by
      have later := unfolds_leavesOfItems rest
      rw [leavesOfItems]
      cases value with
      | sequence inner => exact .nested (unfolds_leavesOfItems inner) later
      | _ => exact .leaf rfl later

theorem unfolds_iff {items leaves : List Value} :
    Unfolds items leaves ↔ leavesOfItems items = leaves := by
  constructor
  · intro unfolded
    induction unfolded with
    | nil => rfl
    | leaf single later ih => rw [leavesOfItems, leaves_eq_singleton single, ih, List.singleton_append]
    | nested here later inner ih => rw [leavesOfItems, Value.leaves, inner, ih]
  · rintro rfl
    exact unfolds_leavesOfItems items

end Value

namespace Reduction

open Value (Unfolds leavesOfItems)

variable {reduction : Reduction} {items leaves : List Value}

theorem apply_congr (reduction : Reduction) {others : List Value}
    (same : leavesOfItems items = leavesOfItems others) :
    reduction.apply (.sequence items) = reduction.apply (.sequence others) := by
  change ((leavesOfItems items).mapM reduction.numberOf >>= _) = _
  rw [same]
  rfl

theorem numberOf_of_no_number (reduction : Reduction) {leaf : Value} (other : ¬leaf.IsNumber) :
    reduction.numberOf leaf = .error (.typeMismatch reduction.tag.name (.noNumber leaf)) := by
  cases leaf with
  | integer value => exact absurd trivial other
  | float value => exact absurd trivial other
  | null | bool | string | sequence | mapping => rfl

/-- The first leaf that is no number is named, whatever stands before and behind it. -/
theorem apply_of_no_number (reduction : Reduction) {before after : List Value} {leaf : Value}
    (unfolded : leavesOfItems items = before ++ leaf :: after)
    (first : ∀ earlier ∈ before, earlier.IsNumber) (other : ¬leaf.IsNumber) :
    reduction.apply (.sequence items) =
      .error (.typeMismatch reduction.tag.name (.noNumber leaf)) := by
  have refused : (leavesOfItems items).mapM reduction.numberOf =
      .error (.typeMismatch reduction.tag.name (.noNumber leaf)) := by
    refine mapM_eq_error_iff.mpr
      ⟨before, leaf, after, unfolded, fun earlier found => ?_, numberOf_of_no_number _ other⟩
    obtain ⟨number, rfl⟩ := Value.isNumber_iff.mp (first earlier found)
    exact ⟨number, numberOf_toValue reduction number⟩
  change ((leavesOfItems items).mapM reduction.numberOf >>= _) = _
  rw [refused]
  rfl

theorem numbers_or_first (leaves : List Value) :
    (∃ numbers : List Number, leaves = numbers.map Number.toValue) ∨
      ∃ before leaf after, leaves = before ++ leaf :: after ∧
        (∀ earlier ∈ before, earlier.IsNumber) ∧ ¬leaf.IsNumber := by
  match found : leaves.find? fun leaf => ¬leaf.IsNumber with
  | none =>
      have all : leaves ∈ Set.range (List.map Number.toValue) := by
        rw [Set.range_list_map]
        intro leaf listed
        have number := List.find?_eq_none.mp found leaf listed
        exact Value.isNumber_iff.mp (by simpa using number)
      obtain ⟨numbers, same⟩ := all
      exact .inl ⟨numbers, same.symm⟩
  | some leaf =>
      obtain ⟨other, before, after, same, first⟩ := List.find?_eq_some_iff_append.mp found
      exact .inr ⟨before, leaf, after, same, by simpa using first, by simpa using other⟩

theorem apply_ne_mismatch {numbers : List Number}
    (unfolded : leavesOfItems items = numbers.map Number.toValue) (tag : String)
    (issue : Mismatch) : reduction.apply (.sequence items) ≠ .error (.typeMismatch tag issue) := by
  rw [reduction.apply_of_numbers unfolded]
  have outcome := reduction.total_outcome numbers
  generalize reduction.total numbers = result at outcome
  cases outcome with
  | overflows early large => nofun
  | integer small exact => nofun
  | float small found => nofun

/-- A type is complained about exactly if some leaf is no number. -/
theorem exists_mismatch_iff (unfolded : leavesOfItems items = leaves) :
    (∃ tag issue, reduction.apply (.sequence items) = .error (.typeMismatch tag issue)) ↔
      ∃ leaf ∈ leaves, ¬leaf.IsNumber := by
  rcases numbers_or_first leaves with ⟨numbers, same⟩ | ⟨before, leaf, after, same, first, other⟩
  · refine iff_of_false ?_ ?_
    · rintro ⟨tag, issue, complained⟩
      exact apply_ne_mismatch (unfolded.trans same) tag issue complained
    · rintro ⟨leaf, found, other⟩
      rw [same] at found
      obtain ⟨number, -, rfl⟩ := List.mem_map.mp found
      exact other (Value.isNumber_iff.mpr ⟨number, rfl⟩)
  · refine iff_of_true ?_ ⟨leaf, ?_, other⟩
    · exact ⟨_, _, reduction.apply_of_no_number (unfolded.trans same) first other⟩
    · rw [same]
      exact List.mem_append_right _ List.mem_cons_self

/-- Integers come to their exact total, and other numbers to a number with a fraction. -/
theorem of_apply_eq_ok (unfolded : leavesOfItems items = leaves) {total : Value}
    (done : reduction.apply (.sequence items) = .ok total) :
    (∃ (values : List Int64) (value : Int64), leaves = values.map .integer ∧
        total = .integer value ∧
        value.toInt = reduction.exactFrom reduction.neutral.toInt (values.map Int64.toInt)) ∨
      (∃ fraction, .float fraction ∈ leaves) ∧ ∃ value, total = .float value := by
  rcases numbers_or_first leaves with ⟨numbers, rfl⟩ | ⟨_, _, _, same, first, other⟩
  · rw [reduction.apply_of_numbers unfolded] at done
    have outcome := reduction.total_outcome numbers
    generalize reduction.total numbers = result at outcome done
    cases outcome with
    | overflows early large => cases done
    | @integer values value small exact =>
        cases done
        exact .inl ⟨values, value, List.map_map, rfl, exact⟩
    | @float _ fraction value small found =>
        cases done
        exact .inr ⟨⟨fraction, List.mem_map_of_mem found⟩, value, rfl⟩
  · rw [reduction.apply_of_no_number (unfolded.trans same) first other] at done
    cases done

theorem exists_integer_iff (unfolded : leavesOfItems items = leaves) {total : Value}
    (done : reduction.apply (.sequence items) = .ok total) :
    (∃ value, total = .integer value) ↔ ∀ leaf ∈ leaves, ∃ value, leaf = .integer value := by
  rcases of_apply_eq_ok unfolded done with
    ⟨values, value, rfl, rfl, -⟩ | ⟨⟨fraction, found⟩, value, rfl⟩
  · refine iff_of_true ⟨value, rfl⟩ fun leaf found => ?_
    obtain ⟨integer, -, rfl⟩ := List.mem_map.mp found
    exact ⟨integer, rfl⟩
  · refine iff_of_false nofun fun integers => ?_
    obtain ⟨integer, same⟩ := integers _ found
    cases same

theorem exact_of_apply_eq_ok {values : List Int64} {total : Value}
    (unfolded : leavesOfItems items = values.map .integer)
    (done : reduction.apply (.sequence items) = .ok total) :
    ∃ value : Int64, total = .integer value ∧
      value.toInt = reduction.exactFrom reduction.neutral.toInt (values.map Int64.toInt) := by
  rcases of_apply_eq_ok unfolded done with ⟨others, value, same, reached, exact⟩ | ⟨⟨_, found⟩, -⟩
  · rw [List.map_inj_right fun _ _ => Value.integer.inj] at same
    exact ⟨value, reached, same ▸ exact⟩
  · obtain ⟨value, -, same⟩ := List.mem_map.mp found
    cases same

section

variable {exact : List Int → Int}
  (listed : (reduction, exact) ∈ [(sum, List.sum), (product, List.prod)])

include listed

theorem exactFrom_neutral (values : List Int) :
    reduction.exactFrom reduction.neutral.toInt values = exact values := by
  rcases List.mem_pair.mp listed with same | same
  · cases same
    exact exactFrom_sum values
  · cases same
    exact exactFrom_product values

/-- The exact total of a group takes the place of the group. -/
theorem exact_group (before group after : List Int) :
    exact (before ++ exact group :: after) = exact (before ++ (group ++ after)) := by
  rcases List.mem_pair.mp listed with same | same
  · cases same
    rw [List.sum_append, List.sum_cons, List.sum_append, List.sum_append]
  · cases same
    rw [List.prod_append, List.prod_cons, List.prod_append, List.prod_append]

/-- The total that a group of integers has on its own takes the place of the group. -/
theorem replaced_group {before group after : List Int64} {subtotal : Int64}
    {inner others : List Value} {total replaced : Value}
    (unfolded : leavesOfItems items = (before ++ (group ++ after)).map .integer)
    (unfoldedInner : leavesOfItems inner = group.map .integer)
    (unfoldedOthers : leavesOfItems others = (before ++ subtotal :: after).map .integer)
    (subtotaled : reduction.apply (.sequence inner) = .ok (.integer subtotal))
    (done : reduction.apply (.sequence items) = .ok total)
    (doneToo : reduction.apply (.sequence others) = .ok replaced) : replaced = total := by
  obtain ⟨value, rfl, exactTotal⟩ := exact_of_apply_eq_ok unfolded done
  obtain ⟨other, rfl, exactReplaced⟩ := exact_of_apply_eq_ok unfoldedOthers doneToo
  obtain ⟨_, same, exactSubtotal⟩ := exact_of_apply_eq_ok unfoldedInner subtotaled
  cases same
  rw [exactFrom_neutral listed] at exactTotal exactReplaced exactSubtotal
  have equal : other.toInt = value.toInt := by
    rw [exactTotal, exactReplaced, List.map_append, List.map_cons, exactSubtotal,
      exact_group listed, List.map_append, List.map_append]
  rw [Int64.toInt_inj.mp equal]

end

end Reduction

namespace Value

/--
Sums and products see only the leaves of a sequence.  Whatever else unfolds to the same leaves comes to
the same.  They complain about a type exactly if some leaf is no number, and then about the first such
leaf, whether or not the numbers before it would overflow.  A total that is reached is an integer
exactly if all leaves are integers; then it is their exact total, and a group of leaves can be replaced
by the total that it has on its own.
-/
theorem totals_of_leaves (items leaves : List Value) (unfolded : Unfolds items leaves) :
    ∀ reduction exact, (reduction, exact) ∈ [(Reduction.sum, List.sum), (.product, List.prod)] →
      let result := reduction.apply (.sequence items)
      let mismatch (issue : Mismatch) : Except Cause Value :=
        .error (.typeMismatch reduction.tag.name issue)
      (∀ others, Unfolds others leaves → reduction.apply (.sequence others) = result) ∧
        ((∃ tag issue, result = .error (.typeMismatch tag issue)) ↔
          ∃ leaf ∈ leaves, ¬leaf.IsNumber) ∧
        (∀ before leaf after, leaves = before ++ leaf :: after →
          (∀ earlier ∈ before, earlier.IsNumber) → ¬leaf.IsNumber →
            result = mismatch (.noNumber leaf)) ∧
        (∀ total, result = .ok total →
          ((∃ value, total = .integer value) ↔ ∀ leaf ∈ leaves, ∃ value, leaf = .integer value) ∧
            ∀ value (values : List Int64), total = .integer value → leaves = values.map .integer →
              value.toInt = exact (values.map Int64.toInt)) ∧
        ∀ (before group after : List Int64) (subtotal : Int64) (inner others : List Value),
          leaves = (before ++ (group ++ after)).map .integer →
          Unfolds inner (group.map .integer) →
          reduction.apply (.sequence inner) = .ok (.integer subtotal) →
          Unfolds others ((before ++ subtotal :: after).map .integer) →
          ∀ total replaced, result = .ok total →
            reduction.apply (.sequence others) = .ok replaced → replaced = total := by
  intro reduction exact listed result mismatch
  have seen : leavesOfItems items = leaves := unfolds_iff.mp unfolded
  refine ⟨?_, Reduction.exists_mismatch_iff seen, ?_, ?_, ?_⟩
  · intro others unfoldedOthers
    exact reduction.apply_congr ((unfolds_iff.mp unfoldedOthers).trans seen.symm)
  · intro before leaf after same first other
    exact reduction.apply_of_no_number (seen.trans same) first other
  · intro total done
    refine ⟨Reduction.exists_integer_iff seen done, ?_⟩
    rintro value values rfl integers
    obtain ⟨_, same, reached⟩ := Reduction.exact_of_apply_eq_ok (seen.trans integers) done
    cases same
    rw [reached, Reduction.exactFrom_neutral listed]
  · intro before group after subtotal inner others integers unfoldedInner subtotaled unfoldedOthers
      total replaced done doneToo
    exact Reduction.replaced_group listed (seen.trans integers) (unfolds_iff.mp unfoldedInner)
      (unfolds_iff.mp unfoldedOthers) subtotaled done doneToo

/--
A text behind integers that overflow is what a sum complains about.  A nested product is that of its
leaves, and the product of an inner group can be taken on its own.
-/
theorem totals_of_leaves_behind_overflow :
    let items : List Value :=
      [.sequence [.integer 9223372036854775807, .sequence []], .integer 1, .sequence [.string "x"]]
    let leaves : List Value := [.integer 9223372036854775807, .integer 1, .string "x"]
    let numbers : List Value := [.integer 2, .sequence [.integer (-3), .sequence [.integer 4]]]
    Unfolds items leaves ∧
      sum (.sequence items) = .error (.typeMismatch Tag.sum.name (.noNumber (.string "x"))) ∧
      Unfolds numbers [.integer 2, .integer (-3), .integer 4] ∧
      product (.sequence numbers) = .ok (.integer (-24)) ∧
      product (.sequence [.integer 2, .integer (-3), .integer 4]) = .ok (.integer (-24)) ∧
      product (.sequence [.integer 2, .integer (-12)]) = .ok (.integer (-24)) := by
  intro items leaves numbers
  have unfolded : Unfolds items leaves := unfolds_leavesOfItems items
  have unfoldedNumbers : Unfolds numbers [.integer 2, .integer (-3), .integer 4] :=
    unfolds_leavesOfItems numbers
  have sums := totals_of_leaves items leaves unfolded .sum List.sum List.mem_cons_self
  have products := totals_of_leaves numbers _ unfoldedNumbers .product List.prod
    (List.mem_cons_of_mem _ List.mem_cons_self)
  have done : product (.sequence numbers) = .ok (.integer (-24)) := rfl
  refine ⟨unfolded, ?_, unfoldedNumbers, done, ?_, ?_⟩
  · have numbersFirst : ∀ earlier ∈ leaves.take 2, earlier.IsNumber := by decide
    exact sums.2.2.1 (leaves.take 2) (.string "x") [] rfl numbersFirst (by decide)
  · exact (products.1 _ (unfolds_leavesOfItems _)).trans done
  · obtain ⟨replaced, reached⟩ :
        ∃ replaced, product (.sequence [.integer 2, .integer (-12)]) = .ok replaced := ⟨_, rfl⟩
    have same := products.2.2.2.2 [2] [-3, 4] [] (-12) [.integer (-3), .integer 4]
      [.integer 2, .integer (-12)] rfl (unfolds_leavesOfItems _) rfl (unfolds_leavesOfItems _)
      (.integer (-24)) replaced done reached
    rw [reached, same]

end Value

end TaggedConfig
