import TaggedConfig.Path
import TaggedConfig.Proofs.DottedPaths.Pieces

/-!
# Where a path leads

A route is the list of names that lead from the root down to a file or a directory.  A path is followed
from a route piece by piece: a name leads down, two full stops lead to the directory above, and any
other piece leads nowhere.  Joined paths are followed one after the other.
-/

namespace TaggedConfig

namespace Text

theorem not_mem_of_mem_cut {separator : Char} {text piece : List Char}
    (found : piece ∈ cut separator text) : separator ∉ piece := by
  induction text generalizing piece with
  | nil =>
      rw [List.mem_singleton.mp found]
      exact List.not_mem_nil
  | cons c rest ih =>
      by_cases ends : c = separator
      · rw [cut, if_pos ends] at found
        rcases List.mem_cons.mp found with rfl | later
        · exact List.not_mem_nil
        · exact ih later
      · obtain ⟨first, others, same, longer⟩ := cut_cons_of_ne ends rest
        rw [same] at ih
        rw [longer] at found
        rcases List.mem_cons.mp found with rfl | later
        · exact List.not_mem_cons_of_ne_of_not_mem (Ne.symm ends) (ih List.mem_cons_self)
        · exact ih (List.mem_cons_of_mem first later)

theorem cut_append_separator {separator : Char} (text rest : List Char) :
    cut separator (text ++ separator :: rest) = cut separator text ++ cut separator rest := by
  induction text with
  | nil => exact cut_append List.not_mem_nil rest
  | cons c others ih =>
      rw [List.cons_append]
      by_cases ends : c = separator
      · rw [cut, if_pos ends, ih, cut, if_pos ends, List.cons_append]
      · obtain ⟨piece, pieces, same, longer⟩ := cut_cons_of_ne ends others
        rw [cut, if_neg ends, ih, longer, same]
        rfl

end Text

namespace Path

/-- The name of a file or a directory. -/
def IsOrdinary (piece : String) : Prop :=
  piece ≠ "" ∧ piece ≠ "." ∧ piece ≠ ".." ∧ '/' ∉ piece.toList

instance : DecidablePred IsOrdinary := fun _ => inferInstanceAs (Decidable (_ ∧ _))

theorem slash_not_mem_of_mem_segments {path : Path} {piece : String}
    (found : piece ∈ path.segments) : '/' ∉ piece.toList := by
  obtain ⟨letters, cut, rfl⟩ := List.mem_map.mp found
  rw [String.toList_ofList]
  exact Text.not_mem_of_mem_cut cut

/-- The pieces of a path lead nowhere, to the directory above, or down. -/
theorem piece_cases {path : Path} {piece : String} (found : piece ∈ path.segments) :
    piece = "" ∨ piece = "." ∨ piece = ".." ∨ IsOrdinary piece := by
  have whole := slash_not_mem_of_mem_segments found
  unfold IsOrdinary
  tauto

end Path

/-- The names that lead from the root down to a file or a directory. -/
@[ext]
structure Route where
  names : List String
  ordinary : ∀ name ∈ names, Path.IsOrdinary name

namespace Route

def root : Route := ⟨[], nofun⟩

def parent (route : Route) : Route :=
  ⟨route.names.dropLast, fun name found => route.ordinary name (List.mem_of_mem_dropLast found)⟩

def child (route : Route) (name : String) (ordinary : Path.IsOrdinary name) : Route :=
  ⟨route.names ++ [name], List.forall_mem_append.mpr
    ⟨route.ordinary, List.forall_mem_singleton.mpr ordinary⟩⟩

def go (route : Route) (piece : String) : Route :=
  if piece = ".." then route.parent
  else if ordinary : Path.IsOrdinary piece then route.child piece ordinary
  else route

def straight (name : String) (ordinary : Path.IsOrdinary name) (length : Nat) : Route :=
  ⟨List.replicate length name, fun _ found => List.eq_of_mem_replicate found ▸ ordinary⟩

/-- The absolute path of a route. -/
def toPath (route : Route) : Path := ⟨"/" ++ (Path.ofSegments route.names).text⟩

@[simp] theorem go_empty (route : Route) : route.go "" = route := by
  unfold go
  rw [if_neg (by decide), dif_neg (by decide)]

@[simp] theorem go_stop (route : Route) : route.go "." = route := by
  unfold go
  rw [if_neg (by decide), dif_neg (by decide)]

@[simp] theorem go_up (route : Route) : route.go ".." = route.parent := if_pos rfl

theorem go_ordinary (route : Route) {name : String} (ordinary : Path.IsOrdinary name) :
    route.go name = route.child name ordinary := by
  unfold go
  rw [if_neg ordinary.2.2.1, dif_pos ordinary]

@[simp] theorem parent_child (route : Route) {name : String} (ordinary : Path.IsOrdinary name) :
    (route.child name ordinary).parent = route :=
  Route.ext List.dropLast_concat

/-- Where no piece leads up, names lead down and all else leads nowhere. -/
theorem names_foldl_go_down (route : Route) {pieces : List String}
    (noAscent : ".." ∉ pieces) :
    (pieces.foldl go route).names = route.names ++ pieces.filter (Path.IsOrdinary ·) := by
  induction pieces generalizing route with
  | nil => exact (List.append_nil _).symm
  | cons piece rest ih =>
      obtain ⟨here, later⟩ := not_or.mp (mt List.mem_cons.mpr noAscent)
      rw [List.foldl_cons, ih _ later, go, if_neg (Ne.symm here)]
      by_cases ordinary : Path.IsOrdinary piece
      · rw [dif_pos ordinary, List.filter_cons_of_pos (by simpa using ordinary)]
        exact List.append_assoc route.names [piece] _
      · rw [dif_neg ordinary, List.filter_cons_of_neg (by simpa using ordinary)]

theorem names_foldl_go (route : Route) {names : List String}
    (ordinary : ∀ name ∈ names, Path.IsOrdinary name) :
    (names.foldl go route).names = route.names ++ names := by
  have noAscent : ".." ∉ names := fun found => (ordinary ".." found).2.2.1 rfl
  have allNames : names.filter (Path.IsOrdinary ·) = names :=
    List.filter_eq_self.mpr fun name found => decide_eq_true (ordinary name found)
  rw [route.names_foldl_go_down noAscent, allNames]

/-- Every pair of full stops takes away the last name. -/
theorem names_foldl_go_up (route : Route) (steps : Nat) :
    ((List.replicate steps "..").foldl go route).names = route.names.rdrop steps := by
  induction steps generalizing route with
  | zero => exact (List.rdrop_zero _).symm
  | succ steps ih =>
      rw [List.replicate_succ, List.foldl_cons, ih, go_up]
      change route.names.dropLast.rdrop steps = _
      rcases List.eq_nil_or_concat' route.names with none | ⟨before, last, some⟩
      · rw [none, List.dropLast_nil, List.rdrop_nil, List.rdrop_nil]
      · rw [some, List.dropLast_concat, List.rdrop_concat_succ]

end Route

namespace Path

/-- Where a path leads that is followed from a route. -/
def follow (path : Path) (start : Route) : Route :=
  path.segments.foldl Route.go (if path.isAbsolute then .root else start)

theorem isAbsolute_iff {text : String} : isAbsolute ⟨text⟩ = true ↔ ['/'] <+: text.toList := by
  rw [isAbsolute, beq_iff_eq, List.head?_eq_some_iff]
  exact exists_congr fun rest => eq_comm

theorem segments_empty : segments ⟨""⟩ = [""] := rfl

theorem segments_slash (text rest : String) :
    segments ⟨text ++ "/" ++ rest⟩ = segments ⟨text⟩ ++ segments ⟨rest⟩ := by
  unfold segments Text.pieces
  rw [String.append_assoc, String.toList_append, String.toList_append]
  exact (congrArg (List.map String.ofList) (Text.cut_append_separator _ _)).trans List.map_append

/-- What stands behind a slash at the end of a path is cut as if it stood alone. -/
theorem segments_behind_slash {path : Path} (ended : path.text.toList.getLast? = some '/')
    (rest : String) :
    ∃ before, segments path = before ++ [""] ∧
      segments ⟨path.text ++ rest⟩ = before ++ segments ⟨rest⟩ := by
  obtain ⟨letters, same⟩ := List.getLast?_eq_some_iff.mp ended
  refine ⟨(Text.cut '/' letters).map String.ofList, ?_, ?_⟩
  · unfold segments Text.pieces
    rw [same, Text.cut_append_separator, List.map_append]
    rfl
  · unfold segments Text.pieces
    rw [String.toList_append, same, List.append_assoc, List.singleton_append,
      Text.cut_append_separator, List.map_append]

theorem segments_absolute (rest : String) : segments ⟨"/" ++ rest⟩ = "" :: segments ⟨rest⟩ :=
  segments_slash "" rest

/-- An absolute path begins with an empty piece. -/
theorem segments_of_isAbsolute {path : Path} (absolute : path.isAbsolute = true) :
    ∃ rest, path.segments = "" :: rest := by
  obtain ⟨letters, same⟩ := List.head?_eq_some_iff.mp (beq_iff_eq.mp absolute)
  refine ⟨(Text.cut '/' letters).map String.ofList, ?_⟩
  unfold segments Text.pieces
  rw [same, ← List.nil_append ('/' :: letters), Text.cut_append List.not_mem_nil]
  rfl

theorem isAbsolute_append {text : String} (some : text ≠ "") (rest : String) :
    isAbsolute ⟨text ++ rest⟩ = isAbsolute ⟨text⟩ := by
  unfold isAbsolute
  rw [String.toList_append, List.head?_append_of_ne_nil]
  exact mt String.toList_eq_nil_iff.mp some

theorem join_of_isAbsolute (path : Path) {later : Path} (absolute : later.isAbsolute = true) :
    path.join later = later := by
  unfold join
  rw [absolute]
  rfl

theorem join_cases (path : Path) {later : Path} (relative : later.isAbsolute = false) :
    (path.text = "" ∧ path.join later = later) ∨
      (path.text.toList.getLast? = some '/' ∧ path.join later = ⟨path.text ++ later.text⟩) ∨
      path.text ≠ "" ∧ path.join later = ⟨path.text ++ "/" ++ later.text⟩ := by
  unfold join
  rw [relative, Bool.false_or]
  by_cases empty : path.text = ""
  · exact .inl ⟨empty, if_pos (String.isEmpty_iff.mpr empty)⟩
  · rw [if_neg (mt String.isEmpty_iff.mp empty)]
    by_cases ended : path.text.toList.getLast? = some '/'
    · exact .inr (.inl ⟨ended, if_pos (beq_iff_eq.mpr ended)⟩)
    · exact .inr (.inr ⟨empty, if_neg (mt beq_iff_eq.mp ended)⟩)

theorem isAbsolute_join (path later : Path) :
    (path.join later).isAbsolute = (path.isAbsolute || later.isAbsolute) := by
  cases absolute : later.isAbsolute with
  | true => rw [join_of_isAbsolute path absolute, absolute, Bool.or_true]
  | false =>
      rw [Bool.or_false]
      rcases join_cases path absolute with ⟨empty, same⟩ | ⟨ended, same⟩ | ⟨some, same⟩
      · rw [same, absolute, isAbsolute, empty]
        rfl
      · have some : path.text ≠ "" := fun empty => by simp [empty] at ended
        rw [same, isAbsolute_append some]
      · rw [same, String.append_assoc, isAbsolute_append some]

/-- A joined path leads where its second part leads from the end of its first part. -/
theorem follow_join (path later : Path) (start : Route) :
    (path.join later).follow start = later.follow (path.follow start) := by
  have begun := isAbsolute_join path later
  cases absolute : later.isAbsolute with
  | true =>
      rw [join_of_isAbsolute path absolute]
      unfold follow
      rw [absolute]
      rfl
  | false =>
      rw [absolute, Bool.or_false] at begun
      unfold follow
      rw [begun, absolute, if_neg Bool.false_ne_true]
      rcases join_cases path absolute with ⟨empty, same⟩ | ⟨ended, same⟩ | ⟨-, same⟩
      · have nowhere : path = ⟨""⟩ := congrArg Path.mk empty
        rw [same, nowhere, segments_empty, List.foldl_cons, Route.go_empty]
        rfl
      · obtain ⟨before, pieces, longer⟩ := segments_behind_slash ended later.text
        rw [same, longer, pieces, List.foldl_append, List.foldl_append, List.foldl_cons,
          Route.go_empty]
        rfl
      · rw [same, segments_slash, List.foldl_append]

end Path

end TaggedConfig
