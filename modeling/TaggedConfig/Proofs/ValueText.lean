import TaggedConfig.Proofs.Yaml.NodeLength
import TaggedConfig.Implicit

/-!
# Value texts

The text behind an arrow is shorter than the text around it, and so are the value texts of a tree that
is read from a text.  This bounds how deep value texts can be nested.
-/

namespace TaggedConfig

namespace Implicit

/-- The value behind an arrow is what is left when some characters are dropped. -/
theorem valueAfter?_suffix {text value : List Char} (found : valueAfter? text = some value) :
    value <:+ text := by
  induction text generalizing value with
  | nil => cases found
  | cons c rest ih =>
      unfold valueAfter? at found
      dsimp only at found
      split at found
      · rename_i later searched
        cases found
        have inner : valueAfter? rest = some value := by
          split at searched
          · exact searched
          · cases searched
        exact (ih inner).trans (List.suffix_cons c rest)
      · obtain ⟨-, same⟩ := Option.ite_none_right_eq_some.mp found
        cases same
        exact List.suffix_rfl

theorem length_of_assignment? {text name valueText : String}
    (found : assignment? text = some (name, valueText)) : valueText.length < text.length := by
  unfold assignment? at found
  split at found
  · cases found
  · rename_i nameChars rest split
    split at found
    · rename_i behind arrow
      obtain ⟨value, searched, same⟩ := Option.map_eq_some_iff.mp found
      cases same
      have kept : rest <:+ text.toList := by
        unfold splitName? at split
        split at split
        · cases split
        · cases split
          exact List.dropWhile_suffix _
      have short := (valueAfter?_suffix searched).length_le
      have dropped := (List.dropWhile_suffix (l := rest) Text.isSpace).length_le
      rw [arrow] at dropped
      have whole := kept.length_le
      simp only [List.length_cons, String.length_toList] at dropped whole
      rw [String.length_ofList]
      omega
    · cases found

end Implicit

end TaggedConfig
