/-!
# Cutting texts

A text is cut at every occurrence of a separator, so that there is one piece more than separators.
-/

namespace TaggedConfig.Text

/-- The pieces of a text between the occurrences of a separator. -/
def cut (separator : Char) : List Char → List (List Char)
  | [] => [[]]
  | c :: rest =>
      if c = separator then [] :: cut separator rest
      else
        match cut separator rest with
        | [] => [[c]]
        | piece :: others => (c :: piece) :: others

def pieces (separator : Char) (text : String) : List String :=
  (cut separator text.toList).map String.ofList

/-- Two texts are cut at the same place if both are cut where their characters stop being inside. -/
theorem append_inj_of_stops {inside : Char → Bool} {first second rest later : List Char}
    (all : ∀ c ∈ first, inside c = true) (alsoAll : ∀ c ∈ second, inside c = true)
    (stops : ∀ c ∈ rest.head?, inside c = false) (alsoStops : ∀ c ∈ later.head?, inside c = false)
    (same : first ++ rest = second ++ later) : first = second ∧ rest = later := by
  induction first generalizing second with
  | nil =>
      cases second with
      | nil => exact ⟨rfl, same⟩
      | cons c others =>
          have outside : inside c = false := stops c (by rw [← List.nil_append rest, same]; rfl)
          rw [alsoAll c List.mem_cons_self] at outside
          cases outside
  | cons c others ih =>
      cases second with
      | nil =>
          have outside : inside c = false :=
            alsoStops c (by rw [← List.nil_append later, ← same]; rfl)
          rw [all c List.mem_cons_self] at outside
          cases outside
      | cons other more =>
          obtain ⟨rfl, behind⟩ := List.cons.inj same
          obtain ⟨rfl, ends⟩ := ih (fun c found => all c (List.mem_cons_of_mem _ found))
            (fun c found => alsoAll c (List.mem_cons_of_mem _ found)) behind
          exact ⟨rfl, ends⟩

end TaggedConfig.Text
