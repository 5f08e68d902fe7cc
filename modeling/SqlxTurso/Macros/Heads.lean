import SqlxTurso.Macros.Rewrite

/-!
# Which paths the rewriter replaces

The walk replaces exactly the `::sqlx` and `::sqlx_turso` that it meets between two
pairs of colons.  Whether such a position starts an absolute path is decided by
the tokens before it, which the walk does not look at; both directions of the
difference are settled here.
-/

namespace SqlxTurso.Macros

open TokenStream

variable {may must : List Token → TokenStream → Prop}
variable {facade : FoundCrate} {before : List Token}

/-- A facade name that is none of the names it replaces. -/
def Fresh (facade : FoundCrate) : Prop :=
  facadeCratePath facade ≠ "sqlx" ∧ facadeCratePath facade ≠ "sqlx_turso"

theorem fresh_db : Fresh (.name "db") := by
  constructor <;> decide

/-- The walk stands between two pairs of colons, or at no colon at all. -/
def AtPair (before : List Token) : TokenStream → Prop
  | .punct ':' _ _ => isPaired before = true
  | _ => True

/-- What is replaced at a position between two pairs may be, and what must be
replaced lies between two pairs. -/
def Chosen (may must : List Token → TokenStream → Prop) (before : List Token)
    (stream : TokenStream) : Prop :=
  (isPaired before = true → (rewrittenHead stream).isSome = true → may before stream) ∧
    (must before stream → isPaired before = true)

theorem absolutePathReplacement_some {name : String} {path : List String}
    (replaced : absolutePathReplacement name facade = some path) :
    (name = "sqlx" ∨ name = "sqlx_turso") ∧
      ∃ segments, path = facadeCratePath facade :: segments := by
  unfold absolutePathReplacement at replaced
  split at replaced
  next isSqlx => exact ⟨.inl isSqlx, _, (Option.some.inj replaced).symm⟩
  next =>
    split at replaced
    next isTurso => exact ⟨.inr isTurso, _, (Option.some.inj replaced).symm⟩
    next => cases replaced

theorem absolutePathReplacement_none {name : String}
    (kept : absolutePathReplacement name facade = none) :
    ¬(name = "sqlx" ∨ name = "sqlx_turso") := by
  unfold absolutePathReplacement at kept
  split at kept
  next => cases kept
  next notSqlx =>
    split at kept
    next => cases kept
    next notTurso => exact fun either => either.elim notSqlx notTurso

theorem absolutePath_injective {left right : TokenStream} :
    (path : List String) → absolutePath path left = absolutePath path right → left = right
  | [], same => same
  | _ :: segments, same => by
      simp only [absolutePath, pathSeparator, punct.injEq, ident.injEq, true_and] at same
      exact absolutePath_injective segments same

/-- A fresh facade path cannot be mistaken for the path it replaces. -/
theorem Fresh.absolutePath_ne (fresh : Fresh facade) {name : String} {path : List String}
    {first second : Spacing} {left right : TokenStream}
    (replaced : absolutePathReplacement name facade = some path) :
    absolutePath path left ≠ .punct ':' first (.punct ':' second (.ident name right)) := by
  obtain ⟨isCrate, segments, rfl⟩ := absolutePathReplacement_some replaced
  intro same
  simp only [absolutePath, pathSeparator, punct.injEq, ident.injEq] at same
  rcases same with ⟨_, _, _, _, sameName, _⟩
  cases isCrate with
  | inl isSqlx => exact fresh.1 (sameName.trans isSqlx)
  | inr isTurso => exact fresh.2 (sameName.trans isTurso)

/-- A punctuation token that the output keeps was not replaced. -/
theorem Replaced.of_kept (fresh : Fresh facade) {char : Char} {spacing : Spacing}
    {rest out : TokenStream}
    (kept : ∀ second name tail, char = ':' → rest = .punct ':' second (.ident name tail) →
      ∃ glue tail', out = .punct ':' glue (.ident name tail'))
    (replaced : Replaced may must facade before (.punct char spacing rest)
      (.punct char spacing out)) :
    ¬must before (.punct char spacing rest) ∧
      Replaced may must facade (.punct char spacing :: before) rest out := by
  generalize output : TokenStream.punct char spacing out = stream at replaced
  cases replaced with
  | punct notDemanded inner =>
      cases output
      exact ⟨notDemanded, inner⟩
  | path _ found _ =>
      obtain ⟨glue, tail', rfl⟩ := kept _ _ _ rfl rfl
      exact absurd output.symm (fresh.absolutePath_ne found)

/-- The three tokens before a crate's name that is kept, and the name, are kept. -/
theorem Replaced.of_keptName (fresh : Fresh facade) {first second : Spacing} {name : String}
    {rest out : TokenStream}
    (replaced : Replaced may must facade before
      (.punct ':' first (.punct ':' second (.ident name rest)))
      (.punct ':' first (.punct ':' second (.ident name out)))) :
    Replaced may must facade
      (.ident name :: .punct ':' second :: .punct ':' first :: before) rest out := by
  obtain ⟨_, atSecond⟩ := replaced.of_kept fresh (by
    intro _ _ _ _ same
    cases same
    exact ⟨second, _, rfl⟩)
  obtain ⟨_, atName⟩ := atSecond.of_kept fresh (by
    intro _ _ _ _ same
    cases same)
  cases atName with
  | ident inner => exact inner

/-- Two colons with no name after them are kept, and what must be replaced does not start at
the second one. -/
theorem Replaced.of_pair (fresh : Fresh facade) {first second : Spacing} {rest : TokenStream}
    (notIdent : ∀ name tail, rest = .ident name tail → False)
    (replaced : Replaced may must facade before (.punct ':' first (.punct ':' second rest))
      (.punct ':' first (.punct ':' second (rewriteSqlxPaths facade rest)))) :
    ¬must (.punct ':' first :: before) (.punct ':' second rest) ∧
      Replaced may must facade (.punct ':' second :: .punct ':' first :: before) rest
        (rewriteSqlxPaths facade rest) := by
  obtain ⟨_, atSecond⟩ := replaced.of_kept fresh (by
    intro _ name tail _ same
    cases same
    exact absurd rfl (notIdent _ _))
  refine atSecond.of_kept fresh ?_
  intro glue name tail _ same
  subst same
  exact ⟨glue, _, rfl⟩

theorem Replaced.of_path (fresh : Fresh facade) {first second : Spacing} {name : String}
    {path : List String} {rest out : TokenStream}
    (found : absolutePathReplacement name facade = some path)
    (replaced : Replaced may must facade before
      (.punct ':' first (.punct ':' second (.ident name rest))) (.absolutePath path out)) :
    may before (.punct ':' first (.punct ':' second (.ident name rest))) ∧
      Replaced may must facade
        (.ident name :: .punct ':' second :: .punct ':' first :: before) rest out := by
  generalize output : TokenStream.absolutePath path out = stream at replaced
  cases replaced with
  | punct _ inner =>
      cases inner with
      | punct _ inner =>
          cases inner with
          | ident => exact absurd output (fresh.absolutePath_ne found)
  | path allowed found' inner =>
      cases found.symm.trans found'
      cases absolutePath_injective path output
      exact ⟨allowed, inner⟩

theorem rewrittenHead_eq_none_of_not_ident {first second : Spacing} {rest : TokenStream}
    (notIdent : ∀ name tail, rest = .ident name tail → False) :
    rewrittenHead (.punct ':' first (.punct ':' second rest)) = none := by
  unfold rewrittenHead
  split
  next same =>
    cases same
    exact absurd rfl (notIdent _ _)
  next => rfl

theorem rewrittenHead_eq_none_of_single {char : Char} {spacing : Spacing}
    {rest : TokenStream}
    (notPair : ∀ second tail, char = ':' → rest = .punct ':' second tail → False) :
    rewrittenHead (.punct char spacing rest) = none := by
  unfold rewrittenHead
  split
  next same =>
    cases same
    exact absurd rfl (notPair _ _ rfl)
  next => rfl

/-- A name that is kept heads no path that is replaced. -/
theorem rewrittenHead_eq_none_of_kept {first second : Spacing} {name : String}
    {rest : TokenStream} (kept : absolutePathReplacement name facade = none) :
    rewrittenHead (.punct ':' first (.punct ':' second (.ident name rest))) = none := by
  simp [rewrittenHead, absolutePathReplacement_none kept]

theorem atPair_of_isPaired (paired : isPaired before = true) :
    (stream : TokenStream) → AtPair before stream
  | .nil => trivial
  | .punct char _ _ => by
      unfold AtPair
      split
      · exact paired
      · trivial
  | .ident _ _ => trivial
  | .literal _ _ => trivial
  | .group _ _ _ => trivial

theorem isPaired_pair (first second : Spacing) :
    isPaired (.punct ':' second :: .punct ':' first :: before) = isPaired before := by
  simp [isPaired]

theorem unpaired_colon (first : Spacing) (paired : isPaired before = true) :
    isPaired (.punct ':' first :: before) = false := by
  simp [isPaired, paired]

/-- After a token that is not the first of two colons the walk is between pairs. -/
theorem atPair_after_single {char : Char} {spacing : Spacing} {rest : TokenStream}
    (notPair : ∀ second tail, char = ':' → rest = .punct ':' second tail → False) :
    AtPair (.punct char spacing :: before) rest := by
  by_cases isColon : char = ':'
  · unfold AtPair
    split
    next => exact absurd rfl (notPair _ _ isColon)
    next => trivial
  · apply atPair_of_isPaired
    unfold isPaired
    split
    next same =>
      simp only [List.cons.injEq, Token.punct.injEq] at same
      exact absurd same.1.1 isColon
    next => rfl

theorem not_must_of_rewrittenHead_eq_none {stream : TokenStream}
    (mustRewrite : ∀ before stream, must before stream →
      (rewrittenHead stream).isSome = true)
    (noHead : rewrittenHead stream = none) : ¬must before stream := by
  intro demanded
  have isHead := mustRewrite _ _ demanded
  rw [noHead] at isHead
  cases isHead

theorem chosen_of_rewrittenHead_eq_none {stream : TokenStream}
    (mustRewrite : ∀ before stream, must before stream →
      (rewrittenHead stream).isSome = true)
    (noHead : rewrittenHead stream = none) : Chosen may must before stream := by
  constructor
  · intro _ isHead
    rw [noHead] at isHead
    cases isHead
  · intro demanded
    exact absurd demanded (not_must_of_rewrittenHead_eq_none mustRewrite noHead)

/-- The second colon of a pair is never the place where the walk replaces. -/
theorem chosen_of_unpaired {stream : TokenStream} (unpaired : isPaired before = false) :
    Chosen may must before stream ↔ ¬must before stream := by
  unfold Chosen
  rw [unpaired]
  simp

section Walk

variable (mustRewrite : ∀ before stream, must before stream →
  (rewrittenHead stream).isSome = true)

include mustRewrite

/-- Where the choice is right everywhere, the walk replaces what it may and must. -/
theorem replaced_of_chosen (stream : TokenStream) (atPair : AtPair before stream)
    (chosen : Everywhere (Chosen may must) before stream) :
    Replaced may must facade before stream (rewriteSqlxPaths facade stream) := by
  induction stream using rewriteSqlxPaths.induct facade generalizing before with
  | case1 => exact .nil
  | case2 first second name rest path found ih =>
      simp only [rewriteSqlxPaths, found]
      rcases chosen with ⟨here, _, _, afterName⟩
      have isHead : (rewrittenHead
          (.punct ':' first (.punct ':' second (.ident name rest)))).isSome = true := by
        simp [rewrittenHead, (absolutePathReplacement_some found).1]
      exact .path (here.1 atPair isHead) found
        (ih (atPair_of_isPaired rfl _) afterName)
  | case3 first second name rest kept ih =>
      simp only [rewriteSqlxPaths, kept]
      rcases chosen with ⟨_, _, _, afterName⟩
      have noSecond : rewrittenHead (.punct ':' second (.ident name rest)) = none := rfl
      exact .punct (not_must_of_rewrittenHead_eq_none mustRewrite
          (rewrittenHead_eq_none_of_kept kept))
        (.punct (not_must_of_rewrittenHead_eq_none mustRewrite noSecond)
          (.ident (ih (atPair_of_isPaired rfl _) afterName)))
  | case4 first second rest notIdent ih =>
      rw [rewriteSqlxPaths.eq_3 _ _ _ _ notIdent]
      rcases chosen with ⟨_, atSecond, afterPair⟩
      have paired : isPaired before = true := atPair
      have unpaired : isPaired (.punct ':' first :: before) = false := unpaired_colon first paired
      have noHead : rewrittenHead (.punct ':' first (.punct ':' second rest)) = none :=
        rewrittenHead_eq_none_of_not_ident notIdent
      refine .punct (not_must_of_rewrittenHead_eq_none mustRewrite noHead)
        (.punct ((chosen_of_unpaired unpaired).mp atSecond) (ih ?_ afterPair))
      exact atPair_of_isPaired ((isPaired_pair first second).trans paired) rest
  | case5 char spacing rest _ notPair ih =>
      rw [rewriteSqlxPaths.eq_4 _ _ _ _ ‹_› notPair]
      have noHead : rewrittenHead (.punct char spacing rest) = none :=
        rewrittenHead_eq_none_of_single notPair
      exact .punct (not_must_of_rewrittenHead_eq_none mustRewrite noHead)
        (ih (atPair_after_single notPair) chosen.2)
  | case6 name rest ih =>
      exact .ident (ih (atPair_of_isPaired rfl _) chosen.2)
  | case7 text rest ih =>
      exact .literal (ih (atPair_of_isPaired rfl _) chosen.2)
  | case8 delimiter stream rest streamIH restIH =>
      exact .group (streamIH (atPair_of_isPaired rfl _) chosen.2.1)
        (restIH (atPair_of_isPaired rfl _) chosen.2.2)

/-- Under a fresh facade name the choice can be read back from the output. -/
theorem chosen_of_replaced (fresh : Fresh facade) (stream : TokenStream)
    (atPair : AtPair before stream)
    (replaced : Replaced may must facade before stream
      (rewriteSqlxPaths facade stream)) :
    Everywhere (Chosen may must) before stream := by
  induction stream using rewriteSqlxPaths.induct facade generalizing before with
  | case1 => exact chosen_of_rewrittenHead_eq_none mustRewrite rfl
  | case2 first second name rest path found ih =>
      simp only [rewriteSqlxPaths, found] at replaced
      obtain ⟨allowed, inner⟩ := replaced.of_path fresh found
      have paired : isPaired before = true := atPair
      exact ⟨⟨fun _ _ => allowed, fun _ => paired⟩,
        chosen_of_rewrittenHead_eq_none mustRewrite rfl,
        chosen_of_rewrittenHead_eq_none mustRewrite rfl,
        ih (atPair_of_isPaired rfl _) inner⟩
  | case3 first second name rest kept ih =>
      simp only [rewriteSqlxPaths, kept] at replaced
      exact ⟨chosen_of_rewrittenHead_eq_none mustRewrite (rewrittenHead_eq_none_of_kept kept),
        chosen_of_rewrittenHead_eq_none mustRewrite rfl,
        chosen_of_rewrittenHead_eq_none mustRewrite rfl,
        ih (atPair_of_isPaired rfl _) (replaced.of_keptName fresh)⟩
  | case4 first second rest notIdent ih =>
      rw [rewriteSqlxPaths.eq_3 _ _ _ _ notIdent] at replaced
      have paired : isPaired before = true := atPair
      obtain ⟨notDemanded, inner⟩ := replaced.of_pair fresh notIdent
      refine ⟨chosen_of_rewrittenHead_eq_none mustRewrite
          (rewrittenHead_eq_none_of_not_ident notIdent),
        (chosen_of_unpaired (unpaired_colon first paired)).mpr notDemanded, ih ?_ inner⟩
      exact atPair_of_isPaired ((isPaired_pair first second).trans paired) rest
  | case5 char spacing rest _ notPair ih =>
      rw [rewriteSqlxPaths.eq_4 _ _ _ _ ‹_› notPair] at replaced
      obtain ⟨_, inner⟩ := replaced.of_kept fresh (by
        intro _ _ _ isColon same
        exact (notPair _ _ isColon same).elim)
      exact ⟨chosen_of_rewrittenHead_eq_none mustRewrite
          (rewrittenHead_eq_none_of_single notPair),
        ih (atPair_after_single notPair) inner⟩
  | case6 name rest ih =>
      cases replaced with
      | ident inner =>
          exact ⟨chosen_of_rewrittenHead_eq_none mustRewrite rfl,
            ih (atPair_of_isPaired rfl _) inner⟩
  | case7 text rest ih =>
      cases replaced with
      | literal inner =>
          exact ⟨chosen_of_rewrittenHead_eq_none mustRewrite rfl,
            ih (atPair_of_isPaired rfl _) inner⟩
  | case8 delimiter stream rest streamIH restIH =>
      cases replaced with
      | group streamReplaced inner =>
          exact ⟨chosen_of_rewrittenHead_eq_none mustRewrite rfl,
            streamIH (atPair_of_isPaired rfl _) streamReplaced,
            restIH (atPair_of_isPaired rfl _) inner⟩

/-- The walk replaces what it may and must, under every facade name, if and only if
its choice is right at every position. -/
theorem replaced_iff_chosen (stream : TokenStream) :
    (∀ facade, Replaced may must facade [] stream (rewriteSqlxPaths facade stream)) ↔
      Everywhere (Chosen may must) [] stream := by
  have atPair : AtPair [] stream := atPair_of_isPaired rfl stream
  constructor
  · intro replaced
    exact chosen_of_replaced mustRewrite fresh_db stream atPair (replaced _)
  · intro chosen facade
    exact replaced_of_chosen mustRewrite stream atPair chosen

end Walk

/-! ## Only path heads -/

/-- Where the walk replaces, an absolute path starts. -/
def ReplacedIsHead (reading : PathReading) (before : List Token) (stream : TokenStream) :
    Prop :=
  isPaired before = true → (rewrittenHead stream).isSome = true → reading before = true

/-- Where a rewritten absolute path starts, the walk replaces. -/
def HeadIsReplaced (reading : PathReading) (before : List Token) (stream : TokenStream) :
    Prop :=
  IsHead reading before stream → isPaired before = true

theorem IsHead.isSome {reading : PathReading} (before : List Token) (stream : TokenStream)
    (isHead : IsHead reading before stream) : (rewrittenHead stream).isSome = true := by
  rw [isHead.2]
  rfl

theorem everywhere_congr {left right : List Token → TokenStream → Prop}
    (same : ∀ before stream, left before stream ↔ right before stream)
    (before : List Token) (stream : TokenStream) :
    Everywhere left before stream ↔ Everywhere right before stream := by
  have equal : left = right := by
    funext before stream
    exact propext (same before stream)
  rw [equal]

/-- Path segments that the walk leaves as they are. -/
def LeavesSegments (segments : List String) : Prop :=
  "sqlx" ∉ segments ∧ "sqlx_turso" ∉ segments

theorem leavesSegments_cons {segment : String} {segments : List String} :
    LeavesSegments (segment :: segments) ↔
      ¬(segment = "sqlx" ∨ segment = "sqlx_turso") ∧ LeavesSegments segments := by
  unfold LeavesSegments
  simp only [List.mem_cons, not_or, eq_comm]
  tauto

theorem absolutePathReplacement_eq_none {name : String}
    (kept : ¬(name = "sqlx" ∨ name = "sqlx_turso")) :
    absolutePathReplacement name facade = none := by
  rw [not_or] at kept
  rw [absolutePathReplacement, if_neg kept.1, if_neg kept.2]

theorem rewriteSqlxPaths_segment (segment : String) (segments : List String)
    (rest : TokenStream) :
    rewriteSqlxPaths facade (absolutePath (segment :: segments) rest) =
      absolutePath ((absolutePathReplacement segment facade).getD [segment])
        (rewriteSqlxPaths facade (absolutePath segments rest)) := by
  simp only [absolutePath, pathSeparator, rewriteSqlxPaths]
  cases absolutePathReplacement segment facade <;> rfl

theorem rewriteSqlxPaths_segments (segments : List String) (rest : TokenStream)
    (leaves : LeavesSegments segments) :
    rewriteSqlxPaths facade (absolutePath segments rest) =
      absolutePath segments (rewriteSqlxPaths facade rest) := by
  induction segments with
  | nil => rfl
  | cons segment segments ih =>
      obtain ⟨kept, leavesRest⟩ := leavesSegments_cons.mp leaves
      rw [rewriteSqlxPaths_segment, absolutePathReplacement_eq_none kept, ih leavesRest]
      rfl

theorem leavesSegments_of_rewriteSqlxPaths (fresh : Fresh facade)
    (segments : List String) (rest : TokenStream)
    (same : rewriteSqlxPaths facade (absolutePath segments rest) =
      absolutePath segments (rewriteSqlxPaths facade rest)) :
    LeavesSegments segments := by
  induction segments with
  | nil => exact ⟨List.not_mem_nil, List.not_mem_nil⟩
  | cons segment segments ih =>
      rw [rewriteSqlxPaths_segment] at same
      cases found : absolutePathReplacement segment facade with
      | some path =>
          rw [found] at same
          exact absurd same (fresh.absolutePath_ne found)
      | none =>
          rw [found] at same
          exact leavesSegments_cons.mpr ⟨absolutePathReplacement_none found,
            ih (absolutePath_injective [segment] same)⟩

/-- The rewriter touches only path heads if and only if an absolute path starts at
each `::sqlx` and `::sqlx_turso` that stands after an even number of colons; and it
keeps what follows `::sqlx_turso` if and only if neither name is among the segments. -/
theorem rewrites_only_heads_iff (reading : PathReading) :
    (∀ stream, (∀ facade,
        OnlyHeads reading facade [] stream (rewriteSqlxPaths facade stream)) ↔
      Everywhere (ReplacedIsHead reading) [] stream) ∧
    (∀ segments rest, (∀ facade,
        rewriteSqlxPaths facade (absolutePath ("sqlx_turso" :: segments) rest) =
          absolutePath (facadeCratePath facade :: segments)
            (rewriteSqlxPaths facade rest)) ↔
      LeavesSegments segments) := by
  constructor
  · intro stream
    refine (replaced_iff_chosen (fun _ _ demanded => demanded.elim) stream).trans ?_
    apply everywhere_congr
    intro before stream
    simp only [Chosen, ReplacedIsHead, false_imp_iff, and_true]
  · intro segments rest
    have headRewritten : ∀ facade,
        rewriteSqlxPaths facade (absolutePath ("sqlx_turso" :: segments) rest) =
          absolutePath [facadeCratePath facade]
            (rewriteSqlxPaths facade (absolutePath segments rest)) := by
      intro facade
      exact rewriteSqlxPaths_segment "sqlx_turso" segments rest
    constructor
    · intro same
      have atDb := (headRewritten (.name "db")).symm.trans (same (.name "db"))
      exact leavesSegments_of_rewriteSqlxPaths fresh_db segments rest
        (absolutePath_injective [facadeCratePath (.name "db")] atDb)
    · intro leaves facade
      rw [headRewritten, rewriteSqlxPaths_segments segments rest leaves]
      rfl

/-- The type path of a `DATE` column, under a facade crate imported as `db`. -/
theorem rewrites_an_inner_segment :
    ¬OnlyHeads languageReading (.name "db") []
        (absolutePath ["sqlx_turso", "sqlx", "types", "chrono", "NaiveDate"] .nil)
        (rewriteSqlxPaths (.name "db")
          (absolutePath ["sqlx_turso", "sqlx", "types", "chrono", "NaiveDate"] .nil)) ∧
      rewriteSqlxPaths (.name "db")
          (absolutePath ["sqlx_turso", "sqlx", "types", "chrono", "NaiveDate"] .nil) =
        absolutePath ["db", "db", "sqlx", "types", "chrono", "NaiveDate"] .nil := by
  constructor
  · intro onlyHeads
    have chosen := chosen_of_replaced (fun _ _ demanded => demanded.elim) fresh_db _
      (atPair_of_isPaired rfl _) onlyHeads
    have atInner := chosen.2.2.2.1.1 rfl rfl
    exact absurd atInner (by decide)
  · decide


/-! ## Every path head -/

/-- What stands to the left reads the same, whatever tokens are put after it. -/
def ReadAlike (left right : List Token) : Prop :=
  ∀ after, languageReading (after ++ left) = languageReading (after ++ right)

theorem ReadAlike.cons {left right : List Token} (alike : ReadAlike left right)
    (token : Token) : ReadAlike (token :: left) (token :: right) := by
  intro after
  have pushed := alike (after ++ [token])
  simpa only [List.append_assoc, List.singleton_append] using pushed

theorem ReadAlike.head {left right : List Token} (alike : ReadAlike left right) :
    languageReading left = languageReading right :=
  alike []

/-- A token on which the reading of what follows a punctuation does not depend. -/
def endsPunctuation : Token → Bool
  | .punct _ _ => false
  | _ => true

theorem languageReading_past {first second : Token} (token : Token)
    (firstEnds : endsPunctuation first = true) (secondEnds : endsPunctuation second = true)
    (left right : List Token) :
    languageReading (token :: first :: left) =
      languageReading (token :: second :: right) := by
  cases token with
  | punct char spacing =>
      by_cases closing : char = '>'
      · subst closing
        cases first <;> cases firstEnds <;> cases second <;> cases secondEnds <;> rfl
      · by_cases colon : char = ':'
        · subst colon
          cases spacing <;> cases first <;> cases firstEnds <;> cases second <;>
            cases secondEnds <;> rfl
        · simp [languageReading, closing, colon]
  | ident name => rfl
  | literal text => rfl
  | group delimiter stream => rfl

theorem languageReading_two (first second : Token) (left right : List Token) :
    languageReading (first :: second :: left) =
      languageReading (first :: second :: right) := by
  cases first with
  | punct char spacing =>
      by_cases closing : char = '>'
      · subst closing
        cases second with
        | punct _ glue => cases glue <;> rfl
        | _ => rfl
      · by_cases colon : char = ':'
        · subst colon
          cases spacing with
          | joint => rfl
          | alone =>
              cases second with
              | punct char glue =>
                  by_cases again : char = ':'
                  · subst again
                    cases glue <;> rfl
                  · simp [languageReading, again]
              | _ => rfl
        · simp [languageReading, closing, colon]
  | ident name => rfl
  | literal text => rfl
  | group delimiter stream => rfl

theorem readAlike_of_head {first second : Token}
    (firstEnds : endsPunctuation first = true) (secondEnds : endsPunctuation second = true)
    {left right : List Token}
    (sameHead : languageReading (first :: left) = languageReading (second :: right)) :
    ReadAlike (first :: left) (second :: right)
  | [] => sameHead
  | [token] => languageReading_past token firstEnds secondEnds left right
  | token :: next :: _ => languageReading_two token next _ _

theorem rewrittenHead_eq_some {stream : TokenStream} {glue : Spacing}
    (isHead : rewrittenHead stream = some glue) :
    ∃ second name tail, stream = .punct ':' glue (.punct ':' second (.ident name tail)) ∧
      (name = "sqlx" ∨ name = "sqlx_turso") := by
  unfold rewrittenHead at isHead
  split at isHead
  next first second name tail =>
    split at isHead
    next isCrate =>
      cases isHead
      exact ⟨second, name, tail, rfl, isCrate⟩
    next => cases isHead
  next => cases isHead

theorem ident_of_rewritten {name : String} {stream tail : TokenStream}
    (output : rewriteSqlxPaths facade stream = .ident name tail) :
    ∃ tail', stream = .ident name tail' := by
  induction stream using rewriteSqlxPaths.induct facade with
  | case2 first second name rest path found _ =>
      obtain ⟨_, segments, rfl⟩ := absolutePathReplacement_some found
      simp [rewriteSqlxPaths, found, absolutePath, pathSeparator] at output
  | case3 first second name rest kept _ =>
      simp [rewriteSqlxPaths, kept] at output
  | case4 first second rest notIdent _ =>
      rw [rewriteSqlxPaths.eq_3 _ _ _ _ notIdent] at output
      cases output
  | case5 char spacing rest _ notPair _ =>
      rw [rewriteSqlxPaths.eq_4 _ _ _ _ ‹_› notPair] at output
      cases output
  | case6 here rest _ =>
      simp only [rewriteSqlxPaths, ident.injEq] at output
      exact ⟨rest, by rw [output.1]⟩
  | _ => simp [rewriteSqlxPaths] at output

/-- A single colon and a name stand in the output only where they stand in the input. -/
theorem colon_ident_of_rewritten {second : Spacing} {name : String}
    {stream tail : TokenStream}
    (output : rewriteSqlxPaths facade stream = .punct ':' second (.ident name tail)) :
    ∃ tail', stream = .punct ':' second (.ident name tail') := by
  induction stream using rewriteSqlxPaths.induct facade with
  | case2 first second name rest path found _ =>
      obtain ⟨_, segments, rfl⟩ := absolutePathReplacement_some found
      simp [rewriteSqlxPaths, found, absolutePath, pathSeparator] at output
  | case3 first second name rest kept _ =>
      simp [rewriteSqlxPaths, kept] at output
  | case4 first second rest notIdent _ =>
      rw [rewriteSqlxPaths.eq_3 _ _ _ _ notIdent] at output
      simp at output
  | case5 char spacing rest _ notPair _ =>
      rw [rewriteSqlxPaths.eq_4 _ _ _ _ ‹_› notPair] at output
      simp only [punct.injEq] at output
      rcases output with ⟨isColon, sameSpacing, afterColon⟩
      obtain ⟨tail', rfl⟩ := ident_of_rewritten afterColon
      exact ⟨tail', by rw [isColon, sameSpacing]⟩
  | _ => simp [rewriteSqlxPaths] at output

theorem rewrittenHead_of_kept {char : Char} {spacing glue : Spacing} {rest : TokenStream}
    (isHead : rewrittenHead (.punct char spacing (rewriteSqlxPaths facade rest)) =
      some glue) :
    rewrittenHead (.punct char spacing rest) = some glue := by
  obtain ⟨second, name, tail, same, isCrate⟩ := rewrittenHead_eq_some isHead
  simp only [punct.injEq] at same
  rcases same with ⟨isColon, sameSpacing, afterColon⟩
  obtain ⟨tail', rfl⟩ := colon_ident_of_rewritten afterColon
  subst isColon sameSpacing
  simp only [rewrittenHead, if_pos isCrate]

/-- No absolute path to one of the rewritten crates starts in a stream. -/
def NoHeads (reading : PathReading) : List Token → TokenStream → Prop :=
  Everywhere fun before stream => ¬IsHead reading before stream

theorem not_isHead_of_none {reading : PathReading} {stream : TokenStream}
    (noHead : rewrittenHead stream = none) : ¬IsHead reading before stream := by
  intro isHead
  rw [isHead.2] at noHead
  cases noHead

theorem readAlike_ident {left right : List Token} {here there : String}
    (hereSegment : reservedWords.contains here = false)
    (thereSegment : reservedWords.contains there = false) :
    ReadAlike (.ident here :: left) (.ident there :: right) :=
  readAlike_of_head rfl rfl (hereSegment.trans thereSegment.symm)

/-- The facade path and what follows it hold no head of their own. -/
theorem noHeads_facadePath (fresh : Fresh facade)
    (usable : reservedWords.contains (facadeCratePath facade) = false)
    {name : String} {path : List String}
    (found : absolutePathReplacement name facade = some path) {rest : TokenStream}
    (noHeads : ∀ left last, reservedWords.contains last = false →
      NoHeads languageReading (.ident last :: left) rest) :
    NoHeads languageReading before (absolutePath path rest) := by
  have noFacade : ∀ rest : TokenStream,
      rewrittenHead (absolutePath [facadeCratePath facade] rest) = none := by
    intro rest
    simp [absolutePath, pathSeparator, rewrittenHead, fresh.1, fresh.2]
  unfold absolutePathReplacement at found
  split at found
  next =>
    cases found
    refine ⟨not_isHead_of_none (noFacade _), not_isHead_of_none rfl,
      not_isHead_of_none rfl, ?_, not_isHead_of_none rfl, not_isHead_of_none rfl,
      noHeads _ "sqlx" (by decide)⟩
    intro isHead
    exact Bool.false_ne_true (usable.symm.trans isHead.1)
  next =>
    split at found
    next =>
      cases found
      exact ⟨not_isHead_of_none (noFacade _), not_isHead_of_none rfl,
        not_isHead_of_none rfl, noHeads _ _ usable⟩
    next => cases found

/-- The name of a crate that is replaced is a path segment. -/
theorem segment_of_replaced {name : String} {path : List String}
    (found : absolutePathReplacement name facade = some path) :
    reservedWords.contains name = false := by
  cases (absolutePathReplacement_some found).1 with
  | inl isSqlx =>
      subst isSqlx
      decide
  | inr isTurso =>
      subst isTurso
      decide

/-- Where two colons have no name after them, they have none in the output. -/
theorem rewrittenHead_pair {first second : Spacing} {rest : TokenStream}
    (notIdent : ∀ name tail, rest = .ident name tail → False) :
    rewrittenHead (.punct ':' first (.punct ':' second (rewriteSqlxPaths facade rest))) = none := by
  refine rewrittenHead_eq_none_of_not_ident fun name tail output => ?_
  obtain ⟨tail', rfl⟩ := ident_of_rewritten output
  exact notIdent name tail' rfl

/-- What is no pair of colons heads no path in the output either. -/
theorem rewrittenHead_single {char : Char} {spacing : Spacing} {rest : TokenStream}
    (notPair : ∀ second tail, char = ':' → rest = .punct ':' second tail → False) :
    rewrittenHead (.punct char spacing (rewriteSqlxPaths facade rest)) = none := by
  cases isHead : rewrittenHead (.punct char spacing (rewriteSqlxPaths facade rest)) with
  | none => rfl
  | some glue =>
      have inInput := rewrittenHead_of_kept isHead
      rw [rewrittenHead_eq_none_of_single notPair] at inInput
      cases inInput

/-- A head that is replaced wherever it stands does not stand at a second colon. -/
theorem not_isHead_second {reading : PathReading} {first second : Spacing} {rest : TokenStream}
    {right : List Token} (paired : isPaired before = true)
    (sameReading : reading (.punct ':' first :: right) = reading (.punct ':' first :: before))
    (atSecond : HeadIsReplaced reading (.punct ':' first :: before) (.punct ':' second rest)) :
    ¬IsHead reading (.punct ':' first :: right)
      (.punct ':' second (rewriteSqlxPaths facade rest)) := by
  intro isHead
  have pairedSecond := atSecond ⟨sameReading.symm.trans isHead.1, rewrittenHead_of_kept isHead.2⟩
  rw [unpaired_colon first paired] at pairedSecond
  cases pairedSecond

/-- Where every head is replaced, none is left. -/
theorem noHeads_of_headIsReplaced (fresh : Fresh facade)
    (usable : reservedWords.contains (facadeCratePath facade) = false)
    (stream : TokenStream) {left right : List Token} (alike : ReadAlike left right)
    (atPair : AtPair left stream)
    (replaced : Everywhere (HeadIsReplaced languageReading) left stream) :
    NoHeads languageReading right (rewriteSqlxPaths facade stream) := by
  induction stream using rewriteSqlxPaths.induct facade generalizing left right with
  | case1 => exact not_isHead_of_none rfl
  | case2 first second name rest path found ih =>
      simp only [rewriteSqlxPaths, found]
      rcases replaced with ⟨_, _, _, afterName⟩
      apply noHeads_facadePath fresh usable found
      intro left last lastSegment
      exact ih (readAlike_ident (segment_of_replaced found) lastSegment)
        (atPair_of_isPaired rfl _) afterName
  | case3 first second name rest kept ih =>
      simp only [rewriteSqlxPaths, kept]
      rcases replaced with ⟨_, _, _, afterName⟩
      exact ⟨not_isHead_of_none (rewrittenHead_eq_none_of_kept kept), not_isHead_of_none rfl,
        not_isHead_of_none rfl,
        ih (((alike.cons _).cons _).cons _) (atPair_of_isPaired rfl _) afterName⟩
  | case4 first second rest notIdent ih =>
      rw [rewriteSqlxPaths.eq_3 _ _ _ _ notIdent]
      rcases replaced with ⟨_, atSecond, afterPair⟩
      have paired : isPaired left = true := atPair
      refine ⟨not_isHead_of_none (rewrittenHead_pair notIdent),
        not_isHead_second paired (alike.cons _).head.symm atSecond,
        ih ((alike.cons _).cons _) ?_ afterPair⟩
      exact atPair_of_isPaired ((isPaired_pair first second).trans paired) rest
  | case5 char spacing rest _ notPair ih =>
      rw [rewriteSqlxPaths.eq_4 _ _ _ _ ‹_› notPair]
      exact ⟨not_isHead_of_none (rewrittenHead_single notPair),
        ih (alike.cons _) (atPair_after_single notPair) replaced.2⟩
  | case6 name rest ih =>
      exact ⟨not_isHead_of_none rfl,
        ih (alike.cons _) (atPair_of_isPaired rfl _) replaced.2⟩
  | case7 text rest ih =>
      exact ⟨not_isHead_of_none rfl,
        ih (alike.cons _) (atPair_of_isPaired rfl _) replaced.2⟩
  | case8 delimiter stream rest streamIH restIH =>
      have unread : ReadAlike [] [] := fun _ => rfl
      have afterGroup : ReadAlike (.group delimiter stream :: left)
          (.group delimiter (rewriteSqlxPaths facade stream) :: right) :=
        readAlike_of_head rfl rfl rfl
      exact ⟨not_isHead_of_none rfl,
        streamIH unread (atPair_of_isPaired rfl _) replaced.2.1,
        restIH afterGroup (atPair_of_isPaired rfl _) replaced.2.2⟩

/-- The rewriter finds every head if and only if each stands after an even number of
colons.  Under a facade crate with another name no head is then left. -/
theorem rewrites_every_head_iff (stream : TokenStream) :
    (∀ reading, (∀ facade,
        AllHeads reading facade [] stream (rewriteSqlxPaths facade stream)) ↔
      Everywhere (HeadIsReplaced reading) [] stream) ∧
    (Everywhere (HeadIsReplaced languageReading) [] stream →
      ∀ facade, Fresh facade →
        reservedWords.contains (facadeCratePath facade) = false →
        NoHeads languageReading [] (rewriteSqlxPaths facade stream)) := by
  constructor
  · intro reading
    refine (replaced_iff_chosen IsHead.isSome stream).trans ?_
    apply everywhere_congr
    intro before stream
    simp only [Chosen, HeadIsReplaced, implies_true, true_and]
  · intro replaced facade fresh usable
    exact noHeads_of_headIsReplaced fresh usable stream (fun _ => rfl)
      (atPair_of_isPaired rfl _) replaced

/-- `row: ::sqlx_turso::TursoRow` -/
def ascribedRow : TokenStream :=
  .ident "row" (.punct ':' .alone (absolutePath ["sqlx_turso", "TursoRow"] .nil))

theorem misses_an_ascribed_head :
    IsHead languageReading [.punct ':' .alone, .ident "row"]
        (absolutePath ["sqlx_turso", "TursoRow"] .nil) ∧
      rewriteSqlxPaths (.name "db") ascribedRow = ascribedRow ∧
      ¬AllHeads languageReading (.name "db") [] ascribedRow
        (rewriteSqlxPaths (.name "db") ascribedRow) := by
  refine ⟨⟨by decide, rfl⟩, by decide, ?_⟩
  intro allHeads
  have chosen := chosen_of_replaced IsHead.isSome fresh_db _ (atPair_of_isPaired rfl _) allHeads
  have paired := chosen.2.2.1.2 ⟨by decide, rfl⟩
  exact absurd paired (by decide)

end SqlxTurso.Macros
