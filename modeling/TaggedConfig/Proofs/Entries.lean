import TaggedConfig.Entries

/-!
# Entries with distinct keys

Writing keeps keys distinct.  Entries with distinct keys are known by their keys and values.  Several
writes keep the order of the first of them to each key and the value of the last.
-/

namespace TaggedConfig.Entries

variable {α : Type} {first second entries : Entries α}

theorem get?_eq_none_iff (entries : Entries α) (key : String) :
    entries.get? key = none ↔ key ∉ entries.keys := by
  induction entries with
  | nil => simp
  | cons entry rest ih =>
      unfold get?
      split
      · rename_i same
        simp [same]
      · rename_i different
        simp [ih, Ne.symm different]

theorem mem_of_get? {key : String} {value : α} (found : entries.get? key = some value) :
    (key, value) ∈ entries := by
  induction entries with
  | nil => cases found
  | cons entry rest ih =>
      unfold get? at found
      split at found
      · rename_i same
        cases found
        exact same ▸ List.mem_cons_self
      · exact List.mem_cons_of_mem _ (ih found)

theorem get?_of_mem (distinct : entries.keys.Nodup) {key : String} {value : α}
    (found : (key, value) ∈ entries) : entries.get? key = some value := by
  induction entries with
  | nil => cases found
  | cons entry rest ih =>
      obtain ⟨absent, distinct⟩ := List.nodup_cons.mp distinct
      rcases List.mem_cons.mp found with rfl | later
      · rw [get?, if_pos rfl]
      · have other : entry.1 ≠ key := fun same => absent (same ▸ List.mem_map_of_mem later)
        rw [get?, if_neg other, ih distinct later]

theorem nodup_put (distinct : entries.keys.Nodup) (key : String) (value : α) :
    (entries.put key value).keys.Nodup := by
  rw [keys_put]
  split
  · exact distinct
  · rename_i absent
    refine List.nodup_append.mpr ⟨distinct, by simp, ?_⟩
    intro other present single found same
    rw [List.mem_singleton] at found
    exact absent (found ▸ same ▸ present)

theorem nodup_putAll (distinct : entries.keys.Nodup) (later : List (String × α)) :
    (entries.putAll later).keys.Nodup := by
  induction later generalizing entries with
  | nil => exact distinct
  | cons entry rest ih => exact ih (nodup_put distinct entry.1 entry.2)

theorem eq_of_get?_eq (distinct : first.keys.Nodup) (keys : first.keys = second.keys)
    (values : ∀ key, first.get? key = second.get? key) : first = second := by
  induction first generalizing second with
  | nil => exact (List.map_eq_nil_iff.mp keys.symm).symm
  | cons entry rest ih =>
      obtain ⟨key, value⟩ := entry
      cases second with
      | nil => cases keys
      | cons other others =>
          obtain ⟨otherKey, otherValue⟩ := other
          obtain ⟨rfl, later⟩ := List.cons.inj keys
          obtain ⟨absent, distinct⟩ := List.nodup_cons.mp distinct
          have same : value = otherValue := by simpa [get?] using values key
          have tails : rest = others := by
            refine ih distinct later fun name => ?_
            by_cases here : key = name
            · subst here
              have absentToo : key ∉ others.map Prod.fst := later ▸ absent
              rw [(get?_eq_none_iff rest key).mpr absent,
                (get?_eq_none_iff others key).mpr absentToo]
            · simpa [get?, here] using values name
          rw [same, tails]

/-- Keys keep their places, and new ones follow in the order of their first write. -/
theorem keys_putAll (entries : Entries α) (later : List (String × α)) :
    (entries.putAll later).keys =
      entries.keys ++ ((later.map Prod.fst).filter (· ∉ entries.keys)).eraseDups := by
  induction later generalizing entries with
  | nil => simp [putAll]
  | cons entry rest ih =>
      obtain ⟨key, value⟩ := entry
      refine (ih (entries.put key value)).trans ?_
      rw [keys_put, List.map_cons]
      by_cases present : key ∈ entries.keys
      · simp [present]
      · rw [if_neg present, List.filter_cons_of_pos (by simpa using present), List.eraseDups_cons,
          List.filter_filter, List.append_assoc, List.singleton_append]
        congr 3
        apply List.filter_congr
        intro other _
        simp only [List.mem_append, List.mem_singleton, not_or, decide_not, Bool.decide_and,
          Bool.and_comm]
        rfl

theorem get?_append (first second : Entries α) (key : String) :
    Entries.get? (first ++ second) key = (first.get? key).or (second.get? key) := by
  induction first with
  | nil => rfl
  | cons entry rest ih =>
      simp only [List.cons_append, get?]
      split
      · rfl
      · exact ih

/-- The last value that is written to a key counts. -/
theorem get?_putAll (entries : Entries α) (later : List (String × α)) (key : String) :
    (entries.putAll later).get? key = (get? later.reverse key).or (entries.get? key) := by
  induction later generalizing entries with
  | nil => rfl
  | cons entry rest ih =>
      refine (ih (entries.put entry.1 entry.2)).trans ?_
      rw [List.reverse_cons, get?_append, get?_put, Option.or_assoc]
      congr 1
      unfold get?
      split <;> rfl

theorem put_of_not_mem {key : String} (absent : key ∉ entries.keys) (value : α) :
    entries.put key value = entries ++ [(key, value)] := by
  induction entries with
  | nil => rfl
  | cons entry rest ih =>
      obtain ⟨different, later⟩ := not_or.mp (mt List.mem_cons.mpr absent)
      rw [put, if_neg (Ne.symm different), ih later, List.cons_append]

theorem putAll_of_nodup {later : List (String × α)}
    (distinct : (entries.keys ++ later.map Prod.fst).Nodup) :
    entries.putAll later = entries ++ later := by
  induction later generalizing entries with
  | nil => exact (List.append_nil entries).symm
  | cons entry rest ih =>
      have absent : entry.1 ∉ entries.keys := fun present =>
        (List.nodup_append.mp distinct).2.2 _ present _ (List.mem_cons_self ..) rfl
      have written : entries.put entry.1 entry.2 = entries ++ [entry] := put_of_not_mem absent _
      have rearranged : (entries.put entry.1 entry.2).keys ++ rest.map Prod.fst =
          entries.keys ++ (entry :: rest).map Prod.fst := by
        rw [keys_put, if_neg absent, List.append_assoc]
        rfl
      calc
        (entries.put entry.1 entry.2).putAll rest = entries.put entry.1 entry.2 ++ rest :=
          ih (rearranged ▸ distinct)
        _ = entries ++ entry :: rest := by rw [written, List.append_assoc, List.singleton_append]

theorem ofList_of_nodup {list : List (String × α)} (distinct : (list.map Prod.fst).Nodup) :
    ofList list = list :=
  putAll_of_nodup distinct

theorem keys_ofList (list : List (String × α)) :
    (ofList list).keys = (list.map Prod.fst).eraseDups := by
  have all : (list.map Prod.fst).filter (· ∉ keys ([] : Entries α)) = list.map Prod.fst :=
    List.filter_eq_self.mpr (by simp)
  rw [ofList, keys_putAll, all, keys_nil, List.nil_append]

theorem get?_ofList (list : List (String × α)) (key : String) :
    (ofList list).get? key = get? list.reverse key := by
  rw [ofList, get?_putAll, get?_nil, Option.or_none]

end TaggedConfig.Entries
