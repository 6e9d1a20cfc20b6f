import Mathlib.Algebra.Ring.Int.Defs
import Mathlib.Data.List.Basic
import TaggedConfig.Tag.Reduction

/-!
# Running totals

A sum or a product of integers is exact after every step, and has to fit into 64 bits after every
step.  So it overflows exactly if a running total does not fit, and a number with a fraction puts an
end to that: what has been reached when it comes is all that matters.  Whether the exact total of
all integers fits is another question, so a different order can have a different outcome.
-/

namespace TaggedConfig

def Fits (value : Int) : Prop := leastInteger ≤ value ∧ value ≤ greatestInteger

instance (value : Int) : Decidable (Fits value) := inferInstanceAs (Decidable (_ ∧ _))

theorem fits_toInt (value : Int64) : Fits value.toInt :=
  ⟨value.le_toInt, Int.le_of_lt_add_one value.toInt_lt⟩

theorem int64?_eq_none {value : Int} (large : ¬Fits value) : int64? value = none := by
  unfold int64?
  exact if_neg large

theorem exists_int64?_eq_some {value : Int} (fits : Fits value) :
    ∃ stored : Int64, int64? value = some stored ∧ stored.toInt = value := by
  refine ⟨.ofInt value, if_pos fits, ?_⟩
  exact Int64.toInt_ofInt_of_le fits.1 (Int.lt_add_one_of_le fits.2)

namespace Number

def leading : List Number → List Int
  | [] => []
  | .integer value :: rest => value.toInt :: leading rest
  | .float _ :: _ => []

end Number

namespace Reduction

variable {reduction : Reduction}

/-- A number passes the look at a leaf. -/
theorem numberOf_toValue (reduction : Reduction) (number : Number) :
    reduction.numberOf number.toValue = .ok number := by
  cases number with
  | integer value => rfl
  | float value => rfl

theorem mapM_numberOf (reduction : Reduction) (numbers : List Number) :
    (numbers.map Number.toValue).mapM reduction.numberOf = .ok numbers := by
  have each : reduction.numberOf ∘ Number.toValue = pure := funext (numberOf_toValue reduction)
  rw [List.mapM_map, each]
  exact List.mapM_pure.trans (congrArg _ (List.map_id numbers))

/-- A sequence of numbers comes to their total, however it is nested. -/
theorem apply_of_numbers (reduction : Reduction) {items : List Value} {numbers : List Number}
    (unfolded : Value.leavesOfItems items = numbers.map Number.toValue) :
    reduction.apply (.sequence items) = (reduction.total numbers).map Number.toValue := by
  have collected := mapM_numberOf reduction numbers
  rw [← unfolded] at collected
  change ((Value.leavesOfItems items).mapM reduction.numberOf >>= _) = _
  rw [collected]
  change (reduction.total numbers >>= _) = _
  cases reduction.total numbers with
  | error cause => rfl
  | ok total => rfl

def exactFrom (reduction : Reduction) (reached : Int) (values : List Int) : Int :=
  values.foldl reduction.integers reached

/-- What numbers come to on top of an integer that has been reached. -/
inductive Outcome (reduction : Reduction) (reached : Int) :
    List Number → Except Cause Number → Prop
  | overflows {numbers : List Number} {before : List Int}
      (early : before <+: Number.leading numbers)
      (large : ¬Fits (reduction.exactFrom reached before)) :
      Outcome reduction reached numbers (.error (.arithmeticOverflow reduction.tag.name))
  | integer {values : List Int64} {total : Int64}
      (small : ∀ before, before <+: Number.leading (values.map .integer) →
        Fits (reduction.exactFrom reached before))
      (exact : total.toInt = reduction.exactFrom reached (values.map Int64.toInt)) :
      Outcome reduction reached (values.map .integer) (.ok (.integer total))
  | float {numbers : List Number} {fraction total : Binary64}
      (small : ∀ before, before <+: Number.leading numbers →
        Fits (reduction.exactFrom reached before))
      (found : .float fraction ∈ numbers) : Outcome reduction reached numbers (.ok (.float total))

/-- One more integer: what it makes of an integer is stored, or does not fit. -/
theorem step_integer (reduction : Reduction) (reached value : Int64) :
    (∃ next : Int64, reduction.step (.integer reached) (.integer value) = .ok (.integer next) ∧
        next.toInt = reduction.integers reached.toInt value.toInt) ∨
      reduction.step (.integer reached) (.integer value) =
          .error (.arithmeticOverflow reduction.tag.name) ∧
        ¬Fits (reduction.integers reached.toInt value.toInt) := by
  by_cases fits : Fits (reduction.integers reached.toInt value.toInt)
  · obtain ⟨next, stored, exact⟩ := exists_int64?_eq_some fits
    refine .inl ⟨next, ?_, exact⟩
    unfold step
    dsimp only
    rw [stored]
  · refine .inr ⟨?_, fits⟩
    unfold step
    dsimp only
    rw [int64?_eq_none fits]

/-- On top of a number with a fraction nothing fails any more. -/
theorem foldlM_float (reduction : Reduction) (reached : Binary64) (numbers : List Number) :
    ∃ total, numbers.foldlM reduction.step (.float reached) = .ok (.float total) := by
  induction numbers generalizing reached with
  | nil => exact ⟨reached, rfl⟩
  | cons number rest ih =>
      have stepped : reduction.step (.float reached) number =
          .ok (.float (reduction.floats reached number.toFloat)) := by
        cases number with
        | integer value => rfl
        | float value => rfl
      rw [List.foldlM_cons, stepped]
      exact ih _

/-- An integer more in front of numbers is a step more in every running total. -/
theorem Outcome.behind {reached next : Int} {value : Int64} {numbers : List Number}
    {result : Except Cause Number} (fits : Fits reached)
    (stepped : next = reduction.integers reached value.toInt)
    (outcome : reduction.Outcome next numbers result) :
    reduction.Outcome reached (.integer value :: numbers) result := by
  subst stepped
  have small {leading : List Int}
      (later : ∀ before, before <+: leading →
        Fits (reduction.exactFrom (reduction.integers reached value.toInt) before)) :
      ∀ before, before <+: value.toInt :: leading → Fits (reduction.exactFrom reached before) := by
    intro before early
    rcases List.prefix_cons_iff.mp early with rfl | ⟨rest, rfl, inner⟩
    · exact fits
    · exact later rest inner
  cases outcome with
  | overflows early large =>
      exact .overflows (List.cons_prefix_cons.mpr ⟨rfl, early⟩) large
  | @integer values total later exact =>
      exact @integer _ _ (value :: values) total (small later) exact
  | float later found => exact .float (small later) (List.mem_cons_of_mem _ found)

/-- On top of an integer, numbers come to what their running totals say. -/
theorem foldlM_integer (reduction : Reduction) (reached : Int64) (numbers : List Number) :
    reduction.Outcome reached.toInt numbers
      (numbers.foldlM reduction.step (.integer reached)) := by
  induction numbers generalizing reached with
  | nil =>
      have small : ∀ before, before <+: [] → Fits (reduction.exactFrom reached.toInt before) := by
        intro before early
        rw [List.prefix_nil.mp early]
        exact fits_toInt reached
      exact @Outcome.integer _ _ [] reached small rfl
  | cons number rest ih =>
      rw [List.foldlM_cons]
      cases number with
      | integer value =>
          rcases step_integer reduction reached value with ⟨next, stepped, exact⟩ | ⟨stepped, large⟩
          · rw [stepped]
            exact .behind (fits_toInt reached) exact (ih next)
          · rw [stepped]
            have early : [value.toInt] <+: Number.leading (.integer value :: rest) :=
              List.cons_prefix_cons.mpr ⟨rfl, List.nil_prefix⟩
            exact .overflows early large
      | float value =>
          obtain ⟨total, reaches⟩ :=
            foldlM_float reduction (reduction.floats (.ofInt reached.toInt) value) rest
          have small : ∀ before, before <+: Number.leading (.float value :: rest) →
              Fits (reduction.exactFrom reached.toInt before) := by
            intro before early
            rw [List.prefix_nil.mp early]
            exact fits_toInt reached
          change reduction.Outcome _ _
            (rest.foldlM reduction.step (.float (reduction.floats (.ofInt reached.toInt) value)))
          rw [reaches]
          exact .float small List.mem_cons_self

theorem total_outcome (reduction : Reduction) (numbers : List Number) :
    reduction.Outcome reduction.neutral.toInt numbers (reduction.total numbers) :=
  foldlM_integer reduction reduction.neutral numbers

theorem exactFrom_sum (values : List Int) : sum.exactFrom sum.neutral.toInt values = values.sum :=
  List.sum_eq_foldl.symm

theorem exactFrom_product (values : List Int) :
    product.exactFrom product.neutral.toInt values = values.prod :=
  List.prod_eq_foldl.symm

end Reduction

namespace Value

/--
When sums and products overflow.  For numbers in a sequence, nested in any way, they fail with an
overflow exactly if the exact total of some of the integers in front of the first number with a
fraction, taken from the left, does not fit into 64 bits.  If they do not, integers alone come to
their exact total, and numbers among which one has a fraction come to a number with a fraction.
-/
theorem overflows_iff_running_total (items : List Value) (numbers : List Number)
    (unfolded : leavesOfItems items = numbers.map Number.toValue) :
    ∀ reduction exact, (reduction, exact) ∈ [(Reduction.sum, List.sum), (.product, List.prod)] →
      let result := reduction.apply (.sequence items)
      let overflow : Except Cause Value := .error (.arithmeticOverflow reduction.tag.name)
      (result = overflow ↔ ∃ before, before <+: Number.leading numbers ∧ ¬Fits (exact before)) ∧
        (result ≠ overflow →
          (∀ values : List Int64, numbers = values.map .integer →
            ∃ total : Int64, result = .ok (.integer total) ∧
              total.toInt = exact (values.map Int64.toInt)) ∧
          ∀ fraction, .float fraction ∈ numbers → ∃ total, result = .ok (.float total)) := by
  intro reduction exact listed result overflow
  have exactly (values : List Int) :
      reduction.exactFrom reduction.neutral.toInt values = exact values := by
    rcases List.mem_pair.mp listed with same | same
    · cases same
      exact Reduction.exactFrom_sum values
    · cases same
      exact Reduction.exactFrom_product values
  have reached : result = (reduction.total numbers).map Number.toValue :=
    reduction.apply_of_numbers unfolded
  have outcome := reduction.total_outcome numbers
  rw [reached]
  generalize reduction.total numbers = total at outcome
  cases outcome with
  | @overflows _ before early large =>
      rw [exactly] at large
      exact ⟨iff_of_true rfl ⟨before, early, large⟩, fun fine => absurd rfl fine⟩
  | @integer values total small exact =>
      refine ⟨iff_of_false nofun ?_, fun _ => ⟨fun others same => ?_, fun fraction found => ?_⟩⟩
      · rintro ⟨before, early, large⟩
        rw [← exactly] at large
        exact large (small before early)
      · rw [exactly] at exact
        rw [List.map_inj_right fun _ _ => Number.integer.inj] at same
        exact ⟨total, rfl, same ▸ exact⟩
      · obtain ⟨value, -, same⟩ := List.mem_map.mp found
        cases same
  | @float _ fraction total small found =>
      refine ⟨iff_of_false nofun ?_, fun _ => ⟨fun values same => ?_, fun _ _ => ⟨total, rfl⟩⟩⟩
      · rintro ⟨before, early, large⟩
        rw [← exactly] at large
        exact large (small before early)
      · rw [same] at found
        obtain ⟨value, -, same⟩ := List.mem_map.mp found
        cases same

/-- Integers that multiply to zero in the end overflow on the way to it, nested as they may be. -/
theorem overflows_iff_running_total_of_zero :
    let items : List Value :=
      [.sequence [.integer 3037000500, .sequence []], .sequence [.integer 3037000500, .integer 0]]
    let numbers : List Number := [.integer 3037000500, .integer 3037000500, .integer 0]
    leavesOfItems items = numbers.map Number.toValue ∧
      product (.sequence items) = .error (.arithmeticOverflow Tag.product.name) := by
  intro items numbers
  have unfolded : leavesOfItems items = numbers.map Number.toValue := rfl
  have totals := overflows_iff_running_total items numbers unfolded .product List.prod
    (List.mem_cons_of_mem _ List.mem_cons_self)
  have early : [3037000500, 3037000500] <+: Number.leading numbers := ⟨[0], rfl⟩
  exact ⟨unfolded, totals.1.mpr ⟨[3037000500, 3037000500], early, by decide⟩⟩

/--
Totals that overflow on the way.  The same integers in another order do not, and their exact total
fits; nor do numbers of which the first has a fraction, in whatever order the others follow.
-/
theorem overflow_on_the_way :
    let most : Int64 := 9223372036854775807
    let overflow (tag : Tag) : Except Cause Value := .error (.arithmeticOverflow tag.name)
    sum (.sequence [.integer most, .integer 1, .integer (-1)]) = overflow .sum ∧
      sum (.sequence [.integer most, .integer (-1), .integer 1]) = .ok (.integer most) ∧
      Fits (List.sum [most.toInt, 1, -1]) ∧
      sum (.sequence [.integer most, .integer 1, .float (.ofInt 0)]) = overflow .sum ∧
      (∃ total,
        sum (.sequence [.float (.ofInt 0), .integer most, .integer 1]) = .ok (.float total)) ∧
      product (.sequence [.integer most, .integer 2, .integer 0]) = overflow .product ∧
      product (.sequence [.integer 0, .integer most, .integer 2]) = .ok (.integer 0) := by
  refine ⟨?_, ?_, ?_, ?_, ?_, ?_, ?_⟩
  · rfl
  · rfl
  · decide
  · rfl
  · exact ⟨_, rfl⟩
  · rfl
  · rfl

end Value

end TaggedConfig
