import TaggedConfig.Proofs.Yaml.FirstToken
import TaggedConfig.Proofs.Yaml.TokenQueue

/-!
# The first token that waits

Tokens are put behind those that wait.  Only the key token of a candidate, and the start of a
mapping if one is due, can come in front of them.  So what is handed out first is the token that was
found first, unless it is a key.
-/

namespace TaggedConfig.Yaml.Lexer

def Extends (lexer after : Lexer) : Prop :=
  ∃ more, after.queue = lexer.queue ++ more ∧ ∀ token ∈ more, token.kind.isLead = false

/-- A token is put behind those that wait, and others that close or open collections before it. -/
def Adds (kind : TokenKind) (lexer after : Lexer) : Prop :=
  ∃ more start stop, after.queue = lexer.queue ++ more ++ [⟨kind, start, stop⟩] ∧
    ∀ token ∈ more, token.kind.isLead = false

def BeginsOtherwise (lexer : Lexer) : Prop :=
  ∃ first rest, lexer.queue = first :: rest ∧ first.kind.isLead = false

def KeepsFirst (lexer after : Lexer) : Prop :=
  ∀ token ∈ lexer.queue.head?, ∃ first ∈ after.queue.head?,
    first = token ∨ first.kind = .key ∨ first.kind = .blockMappingStart

variable {lexer middle after : Lexer} {kind : TokenKind}

theorem Extends.of_eq (same : after.queue = lexer.queue) : Extends lexer after :=
  ⟨[], by rw [same, List.append_nil], nofun⟩

theorem Extends.push (extended : Extends lexer middle) (same : after.queue = middle.queue)
    (kind : TokenKind) (start stop : Mark) : Adds kind lexer (after.push kind start stop) := by
  obtain ⟨more, whole, others⟩ := extended
  refine ⟨more, start, stop, ?_, others⟩
  change after.queue ++ [⟨kind, start, stop⟩] = _
  rw [same, whole]

/-- A token that is found when none waits is the first, or there are others of its sort. -/
theorem Adds.beginsOtherwise (adds : Adds kind lexer after) (none : lexer.queue = [])
    (other : kind.isLead = false) : after.BeginsOtherwise := by
  obtain ⟨more, start, stop, whole, others⟩ := adds
  rw [none, List.nil_append] at whole
  cases more with
  | nil => exact ⟨_, _, whole, other⟩
  | cons first rest => exact ⟨first, _, whole, others first List.mem_cons_self⟩

namespace KeepsFirst

theorem trans (before : KeepsFirst lexer middle) (later : KeepsFirst middle after) :
    KeepsFirst lexer after := by
  intro token found
  obtain ⟨first, isFirst, keeps⟩ := before token found
  obtain ⟨last, isLast, keepsLater⟩ := later first isFirst
  refine ⟨last, isLast, ?_⟩
  rcases keepsLater with rfl | keyed
  · exact keeps
  · exact .inr keyed

theorem of_append {more : List Token} (whole : after.queue = lexer.queue ++ more) :
    KeepsFirst lexer after := by
  intro token found
  refine ⟨token, ?_, .inl rfl⟩
  cases waiting : lexer.queue with
  | nil =>
      rw [waiting] at found
      cases found
  | cons first rest =>
      rw [waiting] at found whole
      rw [whole]
      exact found

theorem of_extends (extended : Extends lexer after) : KeepsFirst lexer after := by
  obtain ⟨more, whole, -⟩ := extended
  exact of_append whole

theorem of_adds (adds : Adds kind lexer after) : KeepsFirst lexer after := by
  obtain ⟨more, start, stop, whole, -⟩ := adds
  rw [List.append_assoc] at whole
  exact of_append whole

/-- Keys and mappings that begin may come in front. -/
theorem insert (lexer : Lexer) (number : Nat) (mark : Mark)
    (keyed : kind = .key ∨ kind = .blockMappingStart) :
    KeepsFirst lexer (lexer.insert number kind mark) := by
  intro token found
  unfold Lexer.insert
  dsimp only
  cases number - lexer.taken with
  | zero => exact ⟨_, rfl, .inr keyed⟩
  | succ index =>
      cases waiting : lexer.queue with
      | nil =>
          rw [waiting] at found
          cases found
      | cons head rest =>
          rw [waiting] at found
          cases found
          exact ⟨token, rfl, .inl rfl⟩

/-- A key is the first token of no boolean and no number either. -/
theorem isLead_eq_false (keeps : KeepsFirst lexer after) (begins : lexer.BeginsOtherwise)
    {first : Token} {rest : List Token} (handed : after.queue = first :: rest) :
    first.kind.isLead = false := by
  obtain ⟨token, others, waiting, other⟩ := begins
  obtain ⟨head, found, kept⟩ := keeps token (by rw [waiting]; rfl)
  rw [handed] at found
  cases found
  rcases kept with rfl | keyed | opens
  · exact other
  · rw [keyed]
    rfl
  · rw [opens]
    rfl

end KeepsFirst

theorem queue_of_dropStale (done : lexer.dropStale = .ok after) : after.queue = lexer.queue := by
  obtain ⟨kept, given, same⟩ := exists_of_bind_eq_ok done
  cases same
  rfl

theorem queue_of_dropCandidate (done : lexer.dropCandidate = .ok after) :
    after.queue = lexer.queue := by
  unfold dropCandidate at done
  split at done
  · cases done
    rfl
  · rename_i candidate present
    cases given : lexer.abandon candidate with
    | error fault =>
        rw [given] at done
        cases done
    | ok kept =>
        rw [given] at done
        cases done
        rfl

theorem queue_of_saveCandidate (done : lexer.saveCandidate = .ok after) :
    after.queue = lexer.queue := by
  refine of_ite_eq_ok done (fun found => ?_) fun same => ?_
  · obtain ⟨behind, dropped, same⟩ := exists_of_bind_eq_ok found
    cases same
    change behind.queue = lexer.queue
    exact queue_of_dropCandidate dropped
  · cases same
    rfl

theorem extends_closeBlocks (lexer : Lexer) (column : Int) :
    Extends lexer (lexer.closeBlocks column) := by
  cases context : lexer.inFlow with
  | true =>
      rw [closeBlocks_of_inFlow context]
      exact .of_eq rfl
  | false =>
      rw [closeBlocks_eq context]
      refine ⟨_, rfl, fun token found => ?_⟩
      rw [List.eq_of_mem_replicate found]
      rfl

theorem extends_openBlock (lexer : Lexer) (column : Nat) (mark : Mark)
    (other : kind.isLead = false) : Extends lexer (lexer.openBlock column none kind mark) := by
  unfold openBlock
  split
  · exact .of_eq rfl
  · exact ⟨[⟨kind, mark, mark⟩], rfl, fun token found => List.mem_singleton.mp found ▸ other⟩

theorem adds_fetchStreamEnd (done : lexer.fetchStreamEnd = .ok after) :
    Adds .streamEnd lexer after := by
  obtain ⟨behind, dropped, same⟩ := exists_of_bind_eq_ok done
  cases same
  have closes (cursor : Cursor) : Extends lexer ((lexer.moveTo cursor).closeBlocks (-1)) :=
    extends_closeBlocks (lexer.moveTo cursor) (-1)
  exact (closes _).push (queue_of_dropCandidate dropped) ..

theorem adds_fetchDirective (done : lexer.fetchDirective = .ok after) :
    ∃ kind, Adds kind lexer after := by
  obtain ⟨behind, dropped, found⟩ := exists_of_bind_eq_ok done
  obtain ⟨⟨kind, stop⟩, scanned, found⟩ := exists_of_bind_eq_ok found
  refine of_ite_eq_ok found nofun fun same => ?_
  cases same
  exact ⟨kind, (extends_closeBlocks lexer (-1)).push (queue_of_dropCandidate dropped) ..⟩

theorem adds_fetchDocumentMarker (done : lexer.fetchDocumentMarker kind = .ok after) :
    Adds kind lexer after := by
  obtain ⟨behind, dropped, same⟩ := exists_of_bind_eq_ok done
  cases same
  exact (extends_closeBlocks lexer (-1)).push (queue_of_dropCandidate dropped) ..

theorem adds_fetchFlowStart (done : lexer.fetchFlowStart kind = .ok after) :
    Adds kind lexer after := by
  obtain ⟨behind, saved, same⟩ := exists_of_bind_eq_ok done
  cases same
  exact (Extends.of_eq (queue_of_saveCandidate saved)).push rfl ..

theorem adds_fetchFlowEnd (done : lexer.fetchFlowEnd kind = .ok after) : Adds kind lexer after := by
  obtain ⟨behind, dropped, same⟩ := exists_of_bind_eq_ok done
  cases same
  refine (Extends.of_eq (queue_of_dropCandidate dropped)).push ?_ ..
  change (if behind.inFlow then { behind with candidates := behind.candidates.drop 1 }
    else behind).queue = _
  split
  · rfl
  · rfl

theorem adds_fetchFlowEntry (done : lexer.fetchFlowEntry = .ok after) :
    Adds .flowEntry lexer after := by
  obtain ⟨behind, dropped, same⟩ := exists_of_bind_eq_ok done
  cases same
  exact (Extends.of_eq (queue_of_dropCandidate dropped)).push rfl ..

theorem adds_fetchBlockEntry (done : lexer.fetchBlockEntry = .ok after) :
    Adds .blockEntry lexer after := by
  refine of_ite_eq_ok done nofun fun found => ?_
  obtain ⟨behind, dropped, same⟩ := exists_of_bind_eq_ok found
  cases same
  exact (extends_openBlock lexer _ _ rfl).push (queue_of_dropCandidate dropped) ..

theorem adds_fetchKey (done : lexer.fetchKey = .ok after) : Adds .key lexer after := by
  refine of_ite_eq_ok done nofun fun found => ?_
  obtain ⟨behind, dropped, same⟩ := exists_of_bind_eq_ok found
  cases same
  exact (extends_openBlock lexer _ _ rfl).push (queue_of_dropCandidate dropped) ..

theorem adds_fetchAnchor {context : Context} {named : List Char → TokenKind}
    (done : lexer.fetchAnchor context named = .ok after) :
    ∃ name, Adds (named name) lexer after := by
  obtain ⟨behind, saved, found⟩ := exists_of_bind_eq_ok done
  obtain ⟨⟨name, stop⟩, scanned, same⟩ := exists_of_bind_eq_ok found
  cases same
  exact ⟨name, (Extends.of_eq (queue_of_saveCandidate saved)).push rfl ..⟩

theorem adds_fetchTag (done : lexer.fetchTag = .ok after) :
    ∃ handle suffix, Adds (.tag handle suffix) lexer after := by
  obtain ⟨behind, saved, found⟩ := exists_of_bind_eq_ok done
  obtain ⟨⟨handle, suffix, stop⟩, scanned, same⟩ := exists_of_bind_eq_ok found
  cases same
  exact ⟨handle, suffix, (Extends.of_eq (queue_of_saveCandidate saved)).push rfl ..⟩

theorem adds_fetchBlockScalar {style : ScalarStyle}
    (done : lexer.fetchBlockScalar style = .ok after) :
    ∃ text, Adds (.scalar text style) lexer after := by
  obtain ⟨behind, dropped, found⟩ := exists_of_bind_eq_ok done
  obtain ⟨scalar, scanned, same⟩ := exists_of_bind_eq_ok found
  cases same
  exact ⟨scalar.text, (Extends.of_eq (queue_of_dropCandidate dropped)).push rfl ..⟩

theorem adds_fetchQuoted {quote : Quoted.Quote} {style : ScalarStyle}
    (done : lexer.fetchQuoted quote style = .ok after) :
    ∃ text, Adds (.scalar text style) lexer after := by
  obtain ⟨behind, saved, found⟩ := exists_of_bind_eq_ok done
  obtain ⟨scalar, scanned, same⟩ := exists_of_bind_eq_ok found
  cases same
  exact ⟨scalar.text, (Extends.of_eq (queue_of_saveCandidate saved)).push rfl ..⟩

theorem adds_fetchPlain (done : lexer.fetchPlain = .ok after) :
    ∃ text, Adds (.scalar text .plain) lexer after := by
  obtain ⟨behind, saved, found⟩ := exists_of_bind_eq_ok done
  obtain ⟨scalar, scanned, same⟩ := exists_of_bind_eq_ok found
  cases same
  exact ⟨scalar.text, (Extends.of_eq (queue_of_saveCandidate saved)).push rfl ..⟩

/-- Without a candidate, a colon is a value without a key. -/
theorem adds_fetchValue (idle : lexer.candidate? = none) (done : lexer.fetchValue = .ok after) :
    Adds .value lexer after := by
  unfold fetchValue at done
  rw [idle] at done
  refine of_ite_eq_ok done nofun fun same => ?_
  cases same
  exact (extends_openBlock lexer _ _ rfl).push rfl ..

theorem keepsFirst_openBlock (lexer : Lexer) (column number : Nat) (mark : Mark) :
    KeepsFirst lexer (lexer.openBlock column (some number) .blockMappingStart mark) := by
  unfold openBlock
  split
  · exact .of_extends (.of_eq rfl)
  · exact KeepsFirst.insert { lexer with
      indent := column, outerIndents := lexer.indent :: lexer.outerIndents } number mark (.inr rfl)

/-- With a candidate, its key comes in front of it. -/
theorem keepsFirst_fetchValue (done : lexer.fetchValue = .ok after) : KeepsFirst lexer after := by
  cases present : lexer.candidate? with
  | none => exact .of_adds (adds_fetchValue present done)
  | some candidate =>
      unfold fetchValue at done
      rw [present] at done
      cases done
      have keyed : KeepsFirst lexer (lexer.insert candidate.number .key candidate.mark) :=
        .insert lexer candidate.number candidate.mark (.inl rfl)
      have opened := keyed.trans
        (keepsFirst_openBlock _ candidate.mark.column candidate.number candidate.mark)
      exact opened.trans (.of_append rfl)

theorem extends_prepare (done : lexer.prepare = .ok after) : Extends lexer after := by
  obtain ⟨fresh, dropped, same⟩ := exists_of_bind_eq_ok done
  cases same
  have kept := queue_of_dropStale dropped
  change fresh.queue = lexer.queue at kept
  obtain ⟨more, whole, others⟩ := extends_closeBlocks fresh fresh.mark.column
  rw [kept] at whole
  exact ⟨more, whole, others⟩

/-- What can be found at a character, as far as it matters for booleans and numbers. -/
inductive FoundAt (lexer : Lexer) (c : Char) (rest : List Char) (after : Lexer) : Prop
  | directive (column : lexer.mark.column = 0) (done : lexer.fetchDirective = .ok after)
  | marker (column : lexer.mark.column = 0) (marks : startsWithMarker '-' (c :: rest) = true)
      (adds : Adds .documentStart lexer after)
  | anchor (sign : c = '&') {name : List Char} (adds : Adds (.anchor name) lexer after)
  | tag (sign : c = '!') {handle : List Char} {suffix : List UInt8}
      (adds : Adds (.tag handle suffix) lexer after)
  | value (done : lexer.fetchValue = .ok after)
  | plain (done : lexer.fetchPlain = .ok after)
  | other {kind : TokenKind} (other : kind.isLead = false) (adds : Adds kind lexer after)

theorem FoundAt.styled {c : Char} {rest : List Char} {style : ScalarStyle}
    (adds : ∃ text, Adds (.scalar text style) lexer after) (noPlain : style ≠ .plain) :
    FoundAt lexer c rest after := by
  obtain ⟨text, adds⟩ := adds
  refine .other ?_ adds
  cases style with
  | plain => exact absurd rfl noPlain
  | _ => rfl

theorem foundAt_of_fetchFrom {c : Char} {rest : List Char}
    (found : lexer.fetchFrom c rest = .ok after) : FoundAt lexer c rest after := by
  unfold fetchFrom at found
  dsimp only at found
  by_cases directive : (lexer.mark.column == 0 && c == '%') = true
  · rw [if_pos directive] at found
    exact .directive (beq_iff_eq.mp (Bool.and_eq_true_iff.mp directive).1) found
  rw [if_neg directive] at found
  by_cases marker : (lexer.mark.column == 0 && startsWithMarker '-' (c :: rest)) = true
  · rw [if_pos marker] at found
    obtain ⟨column, marks⟩ := Bool.and_eq_true_iff.mp marker
    exact .marker (beq_iff_eq.mp column) marks (adds_fetchDocumentMarker found)
  rw [if_neg marker] at found
  refine of_ite_eq_ok found (fun found => .other rfl (adds_fetchDocumentMarker found))
    fun found => ?_
  refine of_ite_eq_ok found (fun found => .other rfl (adds_fetchFlowStart found)) fun found => ?_
  refine of_ite_eq_ok found (fun found => .other rfl (adds_fetchFlowStart found)) fun found => ?_
  refine of_ite_eq_ok found (fun found => .other rfl (adds_fetchFlowEnd found)) fun found => ?_
  refine of_ite_eq_ok found (fun found => .other rfl (adds_fetchFlowEnd found)) fun found => ?_
  refine of_ite_eq_ok found (fun found => .other rfl (adds_fetchFlowEntry found)) fun found => ?_
  refine of_ite_eq_ok found (fun found => .other rfl (adds_fetchBlockEntry found)) fun found => ?_
  refine of_ite_eq_ok found (fun found => .other rfl (adds_fetchKey found)) fun found => ?_
  refine of_ite_eq_ok found .value fun found => ?_
  refine of_ite_eq_ok found (fun found => ?_) fun found => ?_
  · obtain ⟨name, adds⟩ := adds_fetchAnchor found
    exact .other rfl adds
  by_cases anchor : (c == '&') = true
  · rw [if_pos anchor] at found
    obtain ⟨name, adds⟩ := adds_fetchAnchor found
    exact .anchor (beq_iff_eq.mp anchor) adds
  rw [if_neg anchor] at found
  by_cases tag : (c == '!') = true
  · rw [if_pos tag] at found
    obtain ⟨handle, suffix, adds⟩ := adds_fetchTag found
    exact .tag (beq_iff_eq.mp tag) adds
  rw [if_neg tag] at found
  refine of_ite_eq_ok found (fun found => .styled (adds_fetchBlockScalar found) nofun)
    fun found => ?_
  refine of_ite_eq_ok found (fun found => .styled (adds_fetchBlockScalar found) nofun)
    fun found => ?_
  refine of_ite_eq_ok found (fun found => .styled (adds_fetchQuoted found) nofun) fun found => ?_
  refine of_ite_eq_ok found (fun found => .styled (adds_fetchQuoted found) nofun) fun found => ?_
  exact of_ite_eq_ok found .plain nofun

theorem keepsFirst_fetchFrom {c : Char} {rest : List Char}
    (found : lexer.fetchFrom c rest = .ok after) : KeepsFirst lexer after := by
  cases foundAt_of_fetchFrom found with
  | directive column done =>
      obtain ⟨kind, adds⟩ := adds_fetchDirective done
      exact .of_adds adds
  | marker column marks adds => exact .of_adds adds
  | anchor sign adds => exact .of_adds adds
  | tag sign adds => exact .of_adds adds
  | value done => exact keepsFirst_fetchValue done
  | plain done =>
      obtain ⟨text, adds⟩ := adds_fetchPlain done
      exact .of_adds adds
  | other _ adds => exact .of_adds adds

theorem keepsFirst_fetch (done : lexer.fetch = .ok after) : KeepsFirst lexer after := by
  obtain ⟨ready, prepared, found⟩ := exists_of_bind_eq_ok done
  refine (KeepsFirst.of_extends (extends_prepare prepared)).trans ?_
  unfold dispatch at found
  split at found
  · exact .of_adds (adds_fetchStreamEnd found)
  · exact keepsFirst_fetchFrom found

/-- Finding more tokens until the first can be handed out does not replace it. -/
theorem keepsFirst_settle {fuel : Nat} (done : lexer.settle fuel = .ok after) :
    KeepsFirst lexer after := by
  induction fuel generalizing lexer with
  | zero =>
      cases done
      exact .of_extends (.of_eq rfl)
  | succ fuel ih =>
      rw [settle_succ] at done
      obtain ⟨fresh, given, found⟩ := exists_of_bind_eq_ok done
      have kept : fresh.queue = lexer.queue := by
        refine of_ite_eq_ok given (fun same => ?_) queue_of_dropStale
        cases same
        rfl
      refine (KeepsFirst.of_extends (.of_eq kept)).trans ?_
      refine of_ite_eq_ok found (fun found => ?_) fun same => ?_
      · obtain ⟨further, fetched, found⟩ := exists_of_bind_eq_ok found
        exact (keepsFirst_fetch fetched).trans (ih found)
      · cases same
        exact .of_extends (.of_eq rfl)

end TaggedConfig.Yaml.Lexer
