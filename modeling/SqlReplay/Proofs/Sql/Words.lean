import SqlReplay.Sql.Reader

/-!
# The first word of a statement

A statement that could be read begins with a keyword of its kind (`words_of_readFirst`), so what it
does can be told from its first word.
-/

namespace SqlReplay.Sql

/-- The keywords with which a statement of a kind begins. -/
def Statement.words : Statement → List String
  | createTable _ _ _ => ["CREATE"]
  | dropTable _ _ => ["DROP"]
  | insert _ _ _ => ["INSERT"]
  | select _ _ => ["SELECT"]
  | update _ _ => ["UPDATE"]
  | delete _ => ["DELETE"]
  | begin _ => ["BEGIN"]
  | commit => ["COMMIT", "END"]
  | rollback => ["ROLLBACK"]
  | pragma _ _ => ["PRAGMA"]
  | attach _ _ => ["ATTACH"]

/-! ## What the readers give -/

/-- Whether a reading gives statements with the given words only. -/
def Gives (words : List String) (reading : Except Error (Statement × List Token)) : Prop :=
  ∀ statement rest, reading = .ok (statement, rest) → statement.words = words

section Gives

variable {words : List String}

theorem gives_pure {statement : Statement} (h : statement.words = words) (rest : List Token) :
    Gives words (pure (statement, rest)) := by
  intro _ _ e
  cases e
  exact h

theorem gives_throw (fault : Error) : Gives words (throw fault) := nofun

theorem gives_bind {α : Type} {x : Except Error α}
    {f : α → Except Error (Statement × List Token)} (h : ∀ a, Gives words (f a)) :
    Gives words (x >>= f) := by
  intro statement rest e
  cases x with
  | error fault => cases e
  | ok a => exact h a statement rest e

theorem gives_ite {c : Prop} [Decidable c] {x y : Except Error (Statement × List Token)}
    (hx : Gives words x) (hy : Gives words y) : Gives words (if c then x else y) := by
  split
  · exact hx
  · exact hy

end Gives

theorem gives_readCreate (present : String → Bool) (ts : List Token) :
    Gives ["CREATE"] (readCreate present ts) := by
  unfold readCreate
  refine gives_ite (gives_bind fun ⟨_, ts⟩ => gives_bind fun ⟨_, ts⟩ => ?_) ?_
  all_goals
    refine gives_bind fun ⟨ifAbsent, ts⟩ => gives_bind fun ⟨table, ts⟩ => ?_
    refine gives_bind fun ⟨_, ts⟩ => gives_ite (gives_throw _) ?_
    refine gives_ite (gives_throw _) (gives_ite (gives_throw _) ?_)
    refine gives_bind fun ⟨columns, ts⟩ => ?_
    cases ts with
    | nil => exact gives_pure rfl _
    | cons t rest =>
      exact gives_ite (gives_ite (gives_pure rfl _) (gives_throw _)) (gives_pure rfl _)

theorem gives_readInsert (ts : List Token) : Gives ["INSERT"] (readInsert ts) := by
  unfold readInsert
  refine gives_bind fun ⟨_, ts⟩ => gives_bind fun ⟨table, ts⟩ => gives_ite ?_ ?_
  · refine gives_bind fun ⟨names, ts⟩ => gives_bind fun ⟨_, ts⟩ => ?_
    refine gives_bind fun ⟨columns, ts⟩ => gives_bind fun ⟨_, ts⟩ => ?_
    exact gives_bind fun ⟨rows, ts⟩ => gives_pure rfl ts
  · refine gives_bind fun ⟨columns, ts⟩ => ?_
    exact gives_bind fun ⟨_, ts⟩ => gives_bind fun ⟨rows, ts⟩ => gives_pure rfl ts

theorem gives_readSelect (ts : List Token) : Gives ["SELECT"] (readSelect ts) := by
  unfold readSelect
  refine gives_bind fun ⟨items, ts⟩ => gives_ite ?_ (gives_pure rfl _)
  refine gives_bind fun ⟨table, ts⟩ => gives_ite ?_ (gives_pure rfl _)
  exact gives_bind fun ⟨_, ts⟩ => gives_pure rfl ts

theorem gives_readUpdate (ts : List Token) : Gives ["UPDATE"] (readUpdate ts) := by
  unfold readUpdate
  refine gives_bind fun ⟨table, ts⟩ => gives_bind fun ⟨_, ts⟩ => ?_
  exact gives_bind fun ⟨assignments, ts⟩ => gives_pure rfl ts

theorem gives_readPragma (ts : List Token) : Gives ["PRAGMA"] (readPragma ts) := by
  unfold readPragma
  refine gives_bind fun ⟨name, ts⟩ => gives_ite ?_ (gives_ite ?_ (gives_pure rfl _))
  · exact gives_bind fun ⟨value, ts⟩ => gives_pure rfl ts
  · exact gives_bind fun ⟨value, ts⟩ => gives_bind fun ⟨_, ts⟩ => gives_pure rfl ts

theorem gives_readAttach (ts : List Token) : Gives ["ATTACH"] (readAttach ts) := by
  unfold readAttach
  refine gives_bind fun ⟨file, ts⟩ => gives_bind fun ⟨_, ts⟩ => ?_
  exact gives_bind fun ⟨name, ts⟩ => gives_pure rfl ts

/-! ## Statements -/

/-- Whether a reading gives statements only that begin, as the tokens do, with a keyword of their
kind. -/
def Begins (ts : List Token) (reading : Except Error (Statement × List Token)) : Prop :=
  ∀ statement rest, reading = .ok (statement, rest) →
    statement.words.any (startsWithKeyword · ts) = true

section Begins

variable {t : Token} {ts after : List Token}

theorem begins_of_gives {word : String} {reading : Except Error (Statement × List Token)}
    (hword : t.isKeyword word = true) (h : Gives [word] reading) : Begins (t :: after) reading := by
  intro statement rest e
  rw [h statement rest e, List.any_cons, startsWithKeyword, hword, Bool.true_or]

theorem begins_ite {c : Prop} [Decidable c] {x y : Except Error (Statement × List Token)}
    (hx : c → Begins ts x) (hy : Begins ts y) : Begins ts (if c then x else y) := by
  by_cases h : c
  · rw [if_pos h]
    exact hx h
  · rw [if_neg h]
    exact hy

end Begins

theorem begins_readStatement (present : String → Bool) (ts : List Token) :
    Begins ts (readStatement present ts) := by
  unfold readStatement
  cases ts with
  | nil => nofun
  | cons t after =>
    dsimp only
    refine begins_ite (fun hword => begins_of_gives hword ?_) ?_
    · exact gives_bind fun ⟨_, ts⟩ => gives_readCreate present ts
    refine begins_ite (fun hword => begins_of_gives hword ?_) ?_
    · refine gives_bind fun ⟨_, ts⟩ => gives_ite ?_ ?_
      · refine gives_bind fun ⟨_, ts⟩ => gives_bind fun ⟨ifPresent, ts⟩ => ?_
        exact gives_bind fun ⟨table, ts⟩ => gives_pure rfl ts
      · refine gives_bind fun ⟨ifPresent, ts⟩ => ?_
        exact gives_bind fun ⟨table, ts⟩ => gives_pure rfl ts
    refine begins_ite (fun hword => begins_of_gives hword (gives_readInsert after)) ?_
    refine begins_ite (fun hword => begins_of_gives hword (gives_readSelect after)) ?_
    refine begins_ite (fun hword => begins_of_gives hword (gives_readUpdate after)) ?_
    refine begins_ite (fun hword => begins_of_gives hword ?_) ?_
    · refine gives_bind fun ⟨_, ts⟩ => ?_
      exact gives_bind fun ⟨table, ts⟩ => gives_pure rfl ts
    refine begins_ite (fun hword => begins_of_gives hword ?_) ?_
    · exact gives_pure rfl (readBegin after).2
    refine begins_ite (fun hword => ?_) ?_
    · intro statement rest e
      cases e
      simpa only [Statement.words, startsWithKeyword, List.any_cons, List.any_nil, Bool.or_false]
        using hword
    refine begins_ite (fun hword => begins_of_gives hword ?_) ?_
    · exact gives_pure rfl (readTransactionWord after)
    refine begins_ite (fun hword => begins_of_gives hword (gives_readPragma after)) ?_
    exact begins_ite (fun hword => begins_of_gives hword (gives_readAttach after)) nofun

/-- The first statement of a line begins with a keyword of its kind. -/
theorem words_of_readFirst {present : String → Bool} {ts rest : List Token}
    {statement : Statement} (h : readFirst present ts = .ok (some (statement, rest))) :
    statement.words.any (startsWithKeyword · (skipTerminators ts)) = true := by
  unfold readFirst at h
  split at h
  · cases h
  · rename_i hts
    cases hread : readStatement present (skipTerminators ts) with
    | error fault => simp [hread, bind, Except.bind] at h
    | ok read =>
      obtain ⟨statement', rest'⟩ := read
      simp only [hread, bind, Except.bind] at h
      split at h
      · cases h
        exact begins_readStatement present _ _ _ hread
      · cases h

end SqlReplay.Sql
