import TaggedConfig.Proofs.Paths.Routes

/-!
# Normal forms of paths

The normal form of a path leads where the path leads, from every route.  It is the only one that does:
paths with the same meaning have the same normal form.  So it does not matter whether paths are brought
into normal form before they are joined.
-/

namespace TaggedConfig

namespace Path

/-- A path in normal form. -/
inductive IsNormal : Path → Prop
  | absolute (route : Route) : IsNormal route.toPath
  | relative {ascents : Nat} {names : List String}
      (ordinary : ∀ name ∈ names, IsOrdinary name)
      (some : List.replicate ascents ".." ++ names ≠ []) :
      IsNormal (ofSegments (List.replicate ascents ".." ++ names))
  | here : IsNormal ⟨"."⟩

namespace Normal

/-- A normal form has names only, and an absolute one does not lead above the root. -/
structure IsReduced (normal : Normal) : Prop where
  ordinary : ∀ name ∈ normal.names, IsOrdinary name
  noAscent : normal.isAbsolute = true → normal.ascents = 0

def pieces (normal : Normal) : List String :=
  List.replicate normal.ascents ".." ++ normal.names

def follow (normal : Normal) (start : Route) : Route :=
  normal.pieces.foldl Route.go (if normal.isAbsolute then .root else start)

variable {normal other : Normal} {start : Route} {piece : String}

/-- What a piece of a path makes of a normal form. -/
inductive Moves (normal : Normal) : String → Normal → Prop
  | nowhere {piece : String} (idle : piece = "" ∨ piece = ".") : Moves normal piece normal
  /-- Nothing is above the root. -/
  | atRoot (bare : normal.names = []) (absolute : normal.isAbsolute = true) :
      Moves normal ".." normal
  | above (bare : normal.names = []) (relative : normal.isAbsolute = false) :
      Moves normal ".." { normal with ascents := normal.ascents + 1 }
  | back {before : List String} {last : String} (entered : normal.names = before ++ [last]) :
      Moves normal ".." { normal with names := before }
  | down {piece : String} (ordinary : IsOrdinary piece) :
      Moves normal piece { normal with names := normal.names ++ [piece] }

theorem moves_step (normal : Normal) {path : Path} (found : piece ∈ path.segments) :
    normal.Moves piece (normal.step piece) := by
  unfold step
  rcases piece_cases found with rfl | rfl | rfl | ordinary
  · exact .nowhere (.inl rfl)
  · exact .nowhere (.inr rfl)
  · rw [if_neg (by decide), if_pos rfl, up]
    rcases List.eq_nil_or_concat' normal.names with bare | ⟨before, last, entered⟩
    · rw [if_pos (List.isEmpty_iff.mpr bare)]
      by_cases absolute : normal.isAbsolute = true
      · rw [if_pos absolute]
        exact .atRoot bare absolute
      · rw [if_neg absolute]
        exact .above bare (Bool.eq_false_of_not_eq_true absolute)
    · have back : normal.names.dropLast = before := by rw [entered, List.dropLast_concat]
      rw [if_neg (by simp [entered]), back]
      exact .back entered
  · have idle : ¬(piece = "" ∨ piece = ".") := not_or.mpr ⟨ordinary.1, ordinary.2.1⟩
    rw [if_neg idle, if_neg ordinary.2.2.1]
    exact .down ordinary

theorem IsReduced.moves (reduced : normal.IsReduced) (moves : normal.Moves piece other) :
    other.IsReduced := by
  cases moves with
  | nowhere idle => exact reduced
  | atRoot bare absolute => exact reduced
  | above bare relative =>
      exact ⟨reduced.ordinary, fun absolute => absurd (relative.symm.trans absolute) nofun⟩
  | back entered =>
      have ordinary := reduced.ordinary
      rw [entered] at ordinary
      exact ⟨(List.forall_mem_append.mp ordinary).1, reduced.noAscent⟩
  | down ordinary =>
      exact ⟨List.forall_mem_append.mpr
        ⟨reduced.ordinary, List.forall_mem_singleton.mpr ordinary⟩, reduced.noAscent⟩

/-- A normal form that a piece leads to is followed to where the piece leads. -/
theorem follow_of_moves (reduced : normal.IsReduced) (moves : normal.Moves piece other)
    (start : Route) : other.follow start = (normal.follow start).go piece := by
  unfold follow pieces
  cases moves with
  | nowhere idle =>
      rcases idle with rfl | rfl
      · exact (Route.go_empty _).symm
      · exact (Route.go_stop _).symm
  | atRoot bare absolute =>
      rw [bare, absolute, reduced.noAscent absolute]
      rfl
  | above bare relative =>
      rw [bare, List.append_nil, List.append_nil, List.replicate_succ', List.foldl_append]
      rfl
  | @back before last entered =>
      have ordinary : IsOrdinary last := reduced.ordinary last (by simp [entered])
      rw [entered, ← List.append_assoc, List.foldl_concat, Route.go_ordinary _ ordinary,
        Route.go_up, Route.parent_child]
  | down ordinary =>
      rw [← List.append_assoc, List.foldl_append]
      rfl

theorem Moves.isAbsolute_eq (moves : normal.Moves piece other) :
    other.isAbsolute = normal.isAbsolute := by
  cases moves <;> rfl

/-- Pieces of a path lead a normal form where they lead a route. -/
theorem follow_foldl {segments : List String} {path : Path}
    (taken : ∀ piece ∈ segments, piece ∈ path.segments) (reduced : normal.IsReduced) :
    let reached := segments.foldl step normal
    reached.IsReduced ∧ reached.isAbsolute = normal.isAbsolute ∧
      ∀ start, reached.follow start = segments.foldl Route.go (normal.follow start) := by
  induction segments generalizing normal with
  | nil => exact ⟨reduced, rfl, fun start => rfl⟩
  | cons piece rest ih =>
      obtain ⟨here, later⟩ := List.forall_mem_cons.mp taken
      have moves := normal.moves_step here
      obtain ⟨reducedToo, absolute, followed⟩ := ih later (reduced.moves moves)
      refine ⟨reducedToo, absolute.trans moves.isAbsolute_eq, fun start => ?_⟩
      rw [List.foldl_cons, List.foldl_cons, followed, follow_of_moves reduced moves]

theorem whole_of_mem_pieces (reduced : normal.IsReduced) (found : piece ∈ normal.pieces) :
    piece ≠ "" ∧ '/' ∉ piece.toList := by
  rcases List.mem_append.mp found with above | named
  · rw [List.eq_of_mem_replicate above]
    decide
  · obtain ⟨nonempty, -, -, whole⟩ := reduced.ordinary piece named
    exact ⟨nonempty, whole⟩

theorem segments_pieces (reduced : normal.IsReduced) (some : normal.pieces ≠ []) :
    (ofSegments normal.pieces).segments = normal.pieces :=
  Text.pieces_intercalate '/' some fun _ found => (whole_of_mem_pieces reduced found).2

/-- How a normal form is written. -/
theorem toPath_cases (normal : Normal) :
    (normal.isAbsolute = true ∧ normal.toPath = ⟨"/" ++ (ofSegments normal.pieces).text⟩) ∨
      (normal.isAbsolute = false ∧ normal.pieces = [] ∧ normal.toPath = ⟨"."⟩) ∨
      normal.isAbsolute = false ∧ normal.pieces ≠ [] ∧ normal.toPath = ofSegments normal.pieces := by
  unfold toPath
  by_cases absolute : normal.isAbsolute = true
  · exact .inl ⟨absolute, if_pos absolute⟩
  · have relative := Bool.eq_false_of_not_eq_true absolute
    rw [if_neg absolute]
    by_cases none : normal.pieces = []
    · exact .inr (.inl ⟨relative, none, if_pos (List.isEmpty_iff.mpr none)⟩)
    · exact .inr (.inr ⟨relative, none, if_neg (mt List.isEmpty_iff.mp none)⟩)

theorem pieces_of_isAbsolute (reduced : normal.IsReduced) (absolute : normal.isAbsolute = true) :
    normal.pieces = normal.names := by
  rw [pieces, reduced.noAscent absolute]
  rfl

/-- An absolute normal form is written as the route to where it leads. -/
theorem toPath_of_isAbsolute (reduced : normal.IsReduced) (absolute : normal.isAbsolute = true)
    (start : Route) : normal.toPath = (normal.follow start).toPath := by
  have names : (normal.follow start).names = normal.names := by
    unfold follow
    rw [absolute, if_pos rfl, pieces_of_isAbsolute reduced absolute,
      Route.names_foldl_go _ reduced.ordinary]
    rfl
  have written : normal.toPath = ⟨"/" ++ (ofSegments normal.pieces).text⟩ := if_pos absolute
  rw [written, pieces_of_isAbsolute reduced absolute, Route.toPath, names]

theorem isNormal_toPath (reduced : normal.IsReduced) : normal.toPath.IsNormal := by
  rcases normal.toPath_cases with ⟨absolute, -⟩ | ⟨-, -, same⟩ | ⟨-, some, same⟩
  · rw [toPath_of_isAbsolute reduced absolute .root]
    exact .absolute _
  · rw [same]
    exact .here
  · rw [same]
    exact .relative reduced.ordinary some

theorem isAbsolute_toPath (reduced : normal.IsReduced) :
    normal.toPath.isAbsolute = normal.isAbsolute := by
  rcases normal.toPath_cases with ⟨absolute, same⟩ | ⟨relative, -, same⟩ | ⟨relative, some, same⟩
  · rw [same, absolute]
    exact isAbsolute_append (by decide) _
  · rw [same, relative]
    rfl
  · rw [same, relative]
    obtain ⟨first, rest, begun⟩ := List.exists_cons_of_ne_nil some
    have named : first ∈ normal.pieces := by simp [begun]
    refine Bool.eq_false_of_not_eq_true fun absolute => ?_
    obtain ⟨others, cut⟩ := segments_of_isAbsolute absolute
    rw [segments_pieces reduced some, begun] at cut
    exact (whole_of_mem_pieces reduced named).1 (List.cons.inj cut).1

theorem foldl_segments_pieces (reduced : normal.IsReduced) (route : Route) :
    (ofSegments normal.pieces).segments.foldl Route.go route =
      normal.pieces.foldl Route.go route := by
  by_cases none : normal.pieces = []
  · rw [none]
    exact Route.go_empty route
  · rw [segments_pieces reduced none]

theorem follow_toPath (reduced : normal.IsReduced) (start : Route) :
    normal.toPath.follow start = normal.follow start := by
  have written (route : Route) :
      normal.toPath.segments.foldl Route.go route = normal.pieces.foldl Route.go route := by
    rcases normal.toPath_cases with ⟨absolute, same⟩ | ⟨-, none, same⟩ | ⟨-, some, same⟩
    · rw [same, segments_absolute, List.foldl_cons, Route.go_empty]
      exact foldl_segments_pieces reduced route
    · rw [same, none]
      exact Route.go_stop route
    · rw [same, foldl_segments_pieces reduced]
  unfold Path.follow follow
  rw [written, isAbsolute_toPath reduced]

def kept (normal : Normal) (length : Nat) : Nat :=
  if normal.isAbsolute then 0 else length - normal.ascents

/-- From a route that is deep enough, the names of a normal form follow those that it keeps. -/
theorem names_follow_straight (reduced : normal.IsReduced) {name : String}
    (ordinary : IsOrdinary name) (length : Nat) :
    (normal.follow (.straight name ordinary length)).names =
      List.replicate (normal.kept length) name ++ normal.names := by
  unfold follow pieces kept
  rw [List.foldl_append, Route.names_foldl_go _ reduced.ordinary, Route.names_foldl_go_up]
  cases absolute : normal.isAbsolute with
  | true => rw [reduced.noAscent absolute]; rfl
  | false =>
      change (List.replicate length name).rdrop normal.ascents ++ normal.names = _
      rw [List.rdrop, List.take_replicate, List.length_replicate]
      simp

/-- Repetitions of two elements show how many of them stand in front of a list. -/
theorem replicate_append_inj {α : Type} {a b : α} (different : a ≠ b) {count countToo : Nat}
    {list listToo : List α}
    (first : List.replicate count a ++ list = List.replicate countToo a ++ listToo)
    (second : List.replicate count b ++ list = List.replicate countToo b ++ listToo) :
    count = countToo ∧ list = listToo := by
  induction count generalizing countToo with
  | zero =>
      cases countToo with
      | zero => exact ⟨rfl, first⟩
      | succ countToo =>
          exact absurd (List.cons.inj (first.symm.trans second)).1 different
  | succ count ih =>
      cases countToo with
      | zero => exact absurd (List.cons.inj (first.trans second.symm)).1 different
      | succ countToo =>
          obtain ⟨same, rest⟩ := ih (List.cons.inj first).2 (List.cons.inj second).2
          exact ⟨congrArg _ same, rest⟩

/-- A normal form that keeps as much as another one of a deep route starts like it. -/
theorem start_eq_of_kept_eq (reduced : normal.IsReduced) (reducedToo : other.IsReduced)
    {length : Nat} (deep : normal.ascents + other.ascents < length)
    (same : normal.kept length = other.kept length) :
    normal.isAbsolute = other.isAbsolute ∧ normal.ascents = other.ascents := by
  unfold kept at same
  cases absolute : normal.isAbsolute with
  | true =>
      have bare := reduced.noAscent absolute
      cases absoluteToo : other.isAbsolute with
      | true => exact ⟨rfl, bare.trans (reducedToo.noAscent absoluteToo).symm⟩
      | false =>
          rw [if_pos absolute, absoluteToo, if_neg Bool.false_ne_true] at same
          omega
  | false =>
      rw [absolute, if_neg Bool.false_ne_true] at same
      cases absoluteToo : other.isAbsolute with
      | true =>
          rw [if_pos absoluteToo] at same
          omega
      | false =>
          rw [absoluteToo, if_neg Bool.false_ne_true] at same
          exact ⟨rfl, by omega⟩

theorem eq_of_follow_eq (reduced : normal.IsReduced) (reducedToo : other.IsReduced)
    (same : ∀ start, normal.follow start = other.follow start) : normal = other := by
  obtain ⟨length, deep⟩ : ∃ length, normal.ascents + other.ascents < length := ⟨_, Nat.lt_succ_self _⟩
  have names {name : String} (ordinary : IsOrdinary name) :
      List.replicate (normal.kept length) name ++ normal.names =
        List.replicate (other.kept length) name ++ other.names := by
    rw [← names_follow_straight reduced ordinary, same, names_follow_straight reducedToo ordinary]
  have ordinaryA : IsOrdinary "a" := by decide
  have ordinaryB : IsOrdinary "b" := by decide
  obtain ⟨sameKept, sameNames⟩ :=
    replicate_append_inj (by decide) (names ordinaryA) (names ordinaryB)
  obtain ⟨sameStart, sameAscents⟩ := start_eq_of_kept_eq reduced reducedToo deep sameKept
  cases normal
  cases other
  exact Normal.mk.injEq .. ▸ ⟨sameStart, sameAscents, sameNames⟩

end Normal

theorem normal_spec (path : Path) :
    path.normal.IsReduced ∧ path.normal.isAbsolute = path.isAbsolute ∧
      ∀ start, path.normal.follow start = path.follow start :=
  Normal.follow_foldl (fun _ found => found) ⟨List.forall_mem_nil _, fun _ => rfl⟩

theorem isReduced_normal (path : Path) : path.normal.IsReduced := path.normal_spec.1

theorem follow_normal (path : Path) (start : Route) :
    path.normal.follow start = path.follow start :=
  path.normal_spec.2.2 start

theorem isAbsolute_normalize (path : Path) : path.normalize.isAbsolute = path.isAbsolute :=
  (Normal.isAbsolute_toPath path.isReduced_normal).trans path.normal_spec.2.1

theorem isNormal_normalize (path : Path) : path.normalize.IsNormal :=
  Normal.isNormal_toPath path.isReduced_normal

theorem follow_normalize (path : Path) (start : Route) :
    path.normalize.follow start = path.follow start := by
  rw [normalize, Normal.follow_toPath path.isReduced_normal, follow_normal]

theorem normalize_eq_iff {path other : Path} :
    path.normalize = other.normalize ↔ ∀ start, path.follow start = other.follow start := by
  constructor
  · intro same start
    rw [← follow_normalize, same, follow_normalize]
  · intro same
    have followed (start : Route) : path.normal.follow start = other.normal.follow start := by
      rw [follow_normal, same, follow_normal]
    unfold normalize
    rw [Normal.eq_of_follow_eq path.isReduced_normal other.isReduced_normal followed]

theorem normalize_normalize (path : Path) : path.normalize.normalize = path.normalize :=
  normalize_eq_iff.mpr path.follow_normalize

/-- The normal form of an absolute path is the route to where it leads. -/
theorem normalize_of_isAbsolute {path : Path} (absolute : path.isAbsolute = true)
    (start : Route) : path.normalize = (path.follow start).toPath := by
  rw [← follow_normal, normalize]
  exact Normal.toPath_of_isAbsolute path.isReduced_normal (path.normal_spec.2.1.trans absolute) start

/-- Paths can be brought into normal form before they are joined. -/
theorem normalize_join (path later : Path) :
    (path.normalize.join later.normalize).normalize = (path.join later).normalize := by
  refine normalize_eq_iff.mpr fun start => ?_
  rw [follow_join, follow_join, follow_normalize, follow_normalize]

/--
The normal form of a path is in normal form and leads where the path leads, from every route.  Paths
have the same normal form exactly if they lead to the same from every route; so a normal form is its own
normal form, and a joined path has the normal form of the joined normal forms of its parts.
-/
theorem normalize_canonical :
    (∀ path : Path, path.normalize.IsNormal) ∧
      (∀ (path : Path) (start : Route), path.normalize.follow start = path.follow start) ∧
      (∀ path other : Path,
        path.normalize = other.normalize ↔ ∀ start, path.follow start = other.follow start) ∧
      (∀ path : Path, path.normalize.normalize = path.normalize) ∧
      ∀ path later : Path,
        (path.normalize.join later.normalize).normalize = (path.join later).normalize :=
  ⟨isNormal_normalize, follow_normalize, fun _ _ => normalize_eq_iff, normalize_normalize,
    normalize_join⟩

example : normalize ⟨"a//./b/../../../c/"⟩ = ⟨"../c"⟩ := by decide

end Path

namespace Route

variable (route start : Route)

def normal : Path.Normal := ⟨true, 0, route.names⟩

theorem isReduced_normal : route.normal.IsReduced := ⟨route.ordinary, fun _ => rfl⟩

theorem toPath_normal : route.normal.toPath = route.toPath := rfl

theorem isAbsolute_toPath : route.toPath.isAbsolute = true := by
  rw [← toPath_normal, Path.Normal.isAbsolute_toPath route.isReduced_normal]
  rfl

theorem follow_toPath : route.toPath.follow start = route := by
  rw [← toPath_normal, Path.Normal.follow_toPath route.isReduced_normal]
  exact Route.ext (root.names_foldl_go route.ordinary)

theorem normalize_toPath : route.toPath.normalize = route.toPath := by
  rw [Path.normalize_of_isAbsolute route.isAbsolute_toPath root, follow_toPath]

end Route

end TaggedConfig
