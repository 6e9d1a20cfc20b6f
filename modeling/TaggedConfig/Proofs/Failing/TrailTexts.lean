import TaggedConfig.Proofs.Number.Digits
import TaggedConfig.Text.Cut
import TaggedConfig.Trail

/-!
# Trails and their texts

The text of a trail does not say where its steps begin and end, so that a key with a full stop in it
reads like two keys.  Different trails have different texts if their keys are not empty and have
neither a full stop nor an opening bracket in them: every step but the first begins with one of these
characters then, and the first one does so only if it is a position.
-/

namespace TaggedConfig

namespace Segment

/-- A key that cannot be mistaken for nothing, for several steps or for a position. -/
def IsPlain : Segment → Prop
  | .key text => text ≠ "" ∧ '.' ∉ text.toList ∧ '[' ∉ text.toList
  | .index _ => True

instance : DecidablePred IsPlain
  | .key text => inferInstanceAs (Decidable (text ≠ "" ∧ '.' ∉ text.toList ∧ '[' ∉ text.toList))
  | .index _ => isTrue trivial

def leading : Segment → List Char
  | .key text => text.toList
  | .index position => '[' :: (toString position).toList ++ [']']

def following : Segment → List Char
  | .key text => '.' :: text.toList
  | .index position => (index position).leading

def isInKey (c : Char) : Bool := c != '.' && c != '['

def EndsKey (text : List Char) : Prop := ∀ c ∈ text.head?, isInKey c = false

variable {text : String} {first second : Segment} {rest later : List Char}

theorem isInKey_of_isPlain (plain : (key text).IsPlain) : ∀ c ∈ text.toList, isInKey c = true := by
  intro c found
  have noStop : c ≠ '.' := fun same => plain.2.1 (same ▸ found)
  have noBracket : c ≠ '[' := fun same => plain.2.2 (same ▸ found)
  simp [isInKey, noStop, noBracket]

theorem leading_ne_nil (plain : first.IsPlain) : first.leading ≠ [] := by
  cases first with
  | key text => exact mt String.toList_eq_nil_iff.mp plain.1
  | index position => exact List.cons_ne_nil _ _

theorem leading_key_append_ne (plain : (key text).IsPlain) (position : Nat) :
    (key text).leading ++ rest ≠ (index position).leading ++ later := by
  intro same
  cases letters : text.toList with
  | nil => exact plain.1 (String.toList_eq_nil_iff.mp letters)
  | cons c others =>
      have begun : c = '[' := by
        rw [leading, letters] at same
        exact (List.cons.inj same).1
      exact plain.2.2 (by rw [letters, begun]; exact List.mem_cons_self)

/-- A position ends at its closing bracket. -/
theorem leading_index_append_inj {position other : Nat}
    (same : (index position).leading ++ rest = (index other).leading ++ later) :
    position = other ∧ rest = later := by
  have digits (value : Nat) : ∀ c ∈ (toString value).toList, c.isDigit = true := by
    rw [toList_toString_nat]
    exact fun _ => isDigit_of_mem_toDigits
  have closes (rest : List Char) : ∀ c ∈ (']' :: rest).head?, c.isDigit = false := by
    rintro c ⟨⟩
    rfl
  have behind :
      (toString position).toList ++ ']' :: rest = (toString other).toList ++ ']' :: later := by
    simpa [leading] using same
  obtain ⟨numbers, ends⟩ := Text.append_inj_of_stops (digits position) (digits other)
    (closes rest) (closes later) behind
  exact ⟨Nat.repr_injective (String.toList_inj.mp numbers), (List.cons.inj ends).2⟩

/-- A text has one leading segment, which ends where the next step begins. -/
theorem leading_append_inj (plain : first.IsPlain) (alsoPlain : second.IsPlain)
    (ends : EndsKey rest) (alsoEnds : EndsKey later)
    (same : first.leading ++ rest = second.leading ++ later) : first = second ∧ rest = later := by
  cases first with
  | key text =>
      cases second with
      | key other =>
          obtain ⟨texts, behind⟩ := Text.append_inj_of_stops (isInKey_of_isPlain plain)
            (isInKey_of_isPlain alsoPlain) ends alsoEnds same
          exact ⟨congrArg key (String.toList_inj.mp texts), behind⟩
      | index position => exact absurd same (leading_key_append_ne plain position)
  | index position =>
      cases second with
      | key other => exact absurd same.symm (leading_key_append_ne alsoPlain position)
      | index other =>
          obtain ⟨rfl, behind⟩ := leading_index_append_inj same
          exact ⟨rfl, behind⟩

/-- The same holds of a further segment, because only keys follow a full stop. -/
theorem following_append_inj (plain : first.IsPlain) (alsoPlain : second.IsPlain)
    (ends : EndsKey rest) (alsoEnds : EndsKey later)
    (same : first.following ++ rest = second.following ++ later) :
    first = second ∧ rest = later := by
  cases first with
  | key text =>
      cases second with
      | key other =>
          exact leading_append_inj plain alsoPlain ends alsoEnds (List.cons.inj same).2
      | index position => exact absurd (List.cons.inj same).1 (by decide)
  | index position =>
      cases second with
      | key other => exact absurd (List.cons.inj same).1 (by decide)
      | index other => exact leading_append_inj plain alsoPlain ends alsoEnds same

end Segment

namespace Trail

/-- Every key of a trail is plain. -/
def HasPlainKeys (trail : Trail) : Prop := ∀ segment ∈ trail, segment.IsPlain

instance : DecidablePred HasPlainKeys := fun trail =>
  inferInstanceAs (Decidable (∀ segment ∈ trail, segment.IsPlain))

theorem endsKey_following (trail : Trail) : Segment.EndsKey (trail.flatMap Segment.following) := by
  cases trail with
  | nil => exact nofun
  | cons segment rest =>
      rintro c found
      cases segment with
      | key text => cases found; rfl
      | index position => cases found; rfl

theorem following_inj {first second : Trail} (plain : first.HasPlainKeys)
    (alsoPlain : second.HasPlainKeys)
    (same : first.flatMap Segment.following = second.flatMap Segment.following) :
    first = second := by
  induction first generalizing second with
  | nil =>
      cases second with
      | nil => rfl
      | cons segment rest => cases segment <;> cases same
  | cons segment rest ih =>
      cases second with
      | nil => cases segment <;> cases same
      | cons other later =>
          obtain ⟨here, plainRest⟩ := List.forall_mem_cons.mp plain
          obtain ⟨there, plainLater⟩ := List.forall_mem_cons.mp alsoPlain
          rw [List.flatMap_cons, List.flatMap_cons] at same
          obtain ⟨rfl, behind⟩ := Segment.following_append_inj here there (endsKey_following rest)
            (endsKey_following later) same
          rw [ih plainRest plainLater behind]

theorem toList_extend {written : String} (some : written ≠ "") (segment : Segment) :
    (extend written segment).toList = written.toList ++ segment.following := by
  cases segment with
  | key text =>
      unfold extend
      dsimp only
      rw [if_neg (mt String.isEmpty_iff.mp some), String.toList_append, String.toList_append,
        List.append_assoc]
      rfl
  | index position =>
      unfold extend
      dsimp only
      rw [String.toList_append, String.toList_append, String.toList_append, List.append_assoc,
        List.append_assoc]
      rfl

theorem toList_extend_empty (segment : Segment) : (extend "" segment).toList = segment.leading := by
  cases segment with
  | key text => rfl
  | index position =>
      unfold extend
      dsimp only
      rw [String.toList_append, String.toList_append, String.toList_append]
      rfl

theorem toList_foldl_extend {written : String} (some : written ≠ "") (trail : Trail) :
    (trail.foldl extend written).toList = written.toList ++ trail.flatMap Segment.following := by
  induction trail generalizing written with
  | nil => rw [List.foldl_nil, List.flatMap_nil, List.append_nil]
  | cons segment rest ih =>
      have longer : extend written segment ≠ "" := by
        intro none
        have begun := toList_extend some segment
        rw [none] at begun
        exact some (String.toList_eq_nil_iff.mp (List.append_eq_nil_iff.mp begun.symm).1)
      rw [List.foldl_cons, ih longer, toList_extend some, List.flatMap_cons, List.append_assoc]

theorem toList_describe_cons {segment : Segment} (plain : segment.IsPlain) (rest : Trail) :
    (describe (segment :: rest)).toList =
      segment.leading ++ rest.flatMap Segment.following := by
  have some : extend "" segment ≠ "" := by
    intro none
    have begun := toList_extend_empty segment
    rw [none] at begun
    exact Segment.leading_ne_nil plain begun.symm
  change (rest.foldl extend (extend "" segment)).toList = _
  rw [toList_foldl_extend some, toList_extend_empty]

theorem describe_cons_ne_empty {segment : Segment} (plain : segment.IsPlain) (rest : Trail) :
    describe (segment :: rest) ≠ "" := by
  intro none
  have letters := toList_describe_cons plain rest
  rw [none] at letters
  exact Segment.leading_ne_nil plain (List.append_eq_nil_iff.mp letters.symm).1

theorem describe_inj {first second : Trail} (plain : first.HasPlainKeys)
    (alsoPlain : second.HasPlainKeys) (same : first.describe = second.describe) :
    first = second := by
  cases first with
  | nil =>
      cases second with
      | nil => rfl
      | cons segment rest =>
          exact absurd same.symm (describe_cons_ne_empty (alsoPlain _ List.mem_cons_self) rest)
  | cons segment rest =>
      have here := plain segment List.mem_cons_self
      cases second with
      | nil => exact absurd same (describe_cons_ne_empty here rest)
      | cons other later =>
          obtain ⟨there, plainLater⟩ := List.forall_mem_cons.mp alsoPlain
          have letters := congrArg String.toList same
          rw [toList_describe_cons here, toList_describe_cons there] at letters
          obtain ⟨rfl, behind⟩ := Segment.leading_append_inj here there (endsKey_following rest)
            (endsKey_following later) letters
          rw [following_inj (List.forall_mem_cons.mp plain).2 plainLater behind]

end Trail

end TaggedConfig
