import SqlReplay.Proofs.Sql.Stretches
import SqlReplay.Replay.Target

/-!
# Lines as texts of statements

What a database engine promises of how it takes a text apart (`TextLaws`): it prepares one statement
after the other and reads no text behind the one it prepares; preparing runs nothing; and space,
comments and terminators beside a statement are no part of it, but that the engine keeps the text of
what is created or altered and quotes the text that it cannot prepare.

The laws speak of texts that the engine reads at all (`Texts.Reads`): without NUL characters, and no
longer than it takes.
-/

namespace SqlReplay.Replay

open Storage Sql

/-! ## Parts of a text -/

/-- Whether a text holds no statement: it is space, comments and terminators. -/
def isIdle (cs : List Char) : Bool := (stretches cs).all Stretch.isSpare

/-- A text without the space, comments and terminators at its ends. -/
def bare (cs : List Char) : List Char :=
  wording (((stretches cs).dropWhile Stretch.isSpare).rdropWhile Stretch.isSpare)

/-- Whether a text begins with a statement whose text is kept: one that creates or alters. -/
def keepsText (cs : List Char) : Bool :=
  ((stretches cs).dropWhile Stretch.isSpare).head?.any fun s =>
    s.kind = .word && ["CREATE".toList, "ALTER".toList].contains (s.text.map Char.toUpper)

theorem infix_bare (cs : List Char) : bare cs <:+: cs := by
  have hstretches := (List.rdropWhile_prefix Stretch.isSpare
    ((stretches cs).dropWhile Stretch.isSpare)).isInfix.trans (List.dropWhile_suffix _).isInfix
  obtain ⟨before, after, h⟩ := hstretches
  refine ⟨wording before, wording after, ?_⟩
  rw [bare, ← wording_append, ← wording_append, h, wording_stretches]

/-- How the failure to prepare a statement alone is told of a longer line in which it begins at byte
`start`.  One that has a place in the text is told with the text and the place.  Where the statement
should go on, a terminator that follows it is a fault. -/
inductive ToldAlike (alone line : String) (start : Nat) : EngineFault → EngineFault → Prop
  | same (f : EngineFault) : ToldAlike alone line start f f
  | placed (fault : String) (offset : Nat) : ToldAlike alone line start
    ⟨none, fault ++ s!" in {alone} at offset {offset}"⟩
    ⟨none, fault ++ s!" in {line} at offset {start + offset}"⟩
  | ended (offset : Nat) : ToldAlike alone line start ⟨some .other, "incomplete input"⟩
    ⟨none, "near \";\": syntax error" ++ s!" in {line} at offset {offset}"⟩

/-! ## Preparing -/

section Preparing

variable {σ : Type} [Engine σ]

/-- Whether the first statement of a line can be prepared. -/
def Prepares (line : String) (s : σ) (d : Disk) : Prop :=
  ∃ x, (Engine.next (Engine.batch line) s d).1 = .ok (some x)

/-- How a line is prepared beside its first statement alone: they come to statements that run alike,
or to failures that are told alike. -/
inductive PreparedAlike (alone line : String) (start : Nat) :
    Except EngineFault (Option (Engine.Prepared σ × Engine.Batch σ)) × σ × Disk →
      Except EngineFault (Option (Engine.Prepared σ × Engine.Batch σ)) × σ × Disk → Prop
  | found (p p' : Engine.Prepared σ) (rest rest' : Engine.Batch σ) (s : σ) (d : Disk)
    (hrun : ∀ s d, Engine.run p' s d = Engine.run p s d) :
    PreparedAlike alone line start (.ok (some (p, rest)), s, d) (.ok (some (p', rest')), s, d)
  | refused (f f' : EngineFault) (s : σ) (d : Disk) (htold : ToldAlike alone line start f f') :
    PreparedAlike alone line start (.error f, s, d) (.error f', s, d)

end Preparing

/-! ## Engines -/

/-- What can be told of the sessions of an engine and of the texts it reads. -/
structure Texts (σ : Type) where
  Data : Type
  /-- What a session sees of its databases, its own changes included. -/
  seen : σ → Disk → Data
  /-- What is committed to the databases of a session. -/
  committed : σ → Disk → Data
  /-- What follows the first statement of a text and the terminator that ends it. -/
  after : List Char → List Char
  /-- The number of bytes of the longest text that is read. -/
  longest : Nat

namespace Texts

variable {σ : Type} (T : Texts σ)

/-- Whether the engine takes a text for what it is. -/
structure Reads (cs : List Char) : Prop where
  nul : '\x00' ∉ cs
  length : (Utf8.encode cs).length ≤ T.longest

/-- The text of the first statement of a line, from the beginning of the line to the terminator. -/
def firstText (cs : List Char) : List Char := cs.take (cs.length - (T.after cs).length)

/-- The first statement of a line with its terminator and whatever is before it. -/
def first (line : String) : String := String.ofList (T.firstText line.toList)

/-- The first statement of a line alone. -/
def alone (line : String) : String := String.ofList (bare (T.firstText line.toList))

variable {T} in
theorem Reads.of_infix {cs cs' : List Char} (h : T.Reads cs) (hpart : cs' <:+: cs) :
    T.Reads cs' where
  nul hnul := h.nul (hpart.subset hnul)
  length := by
    obtain ⟨before, after, rfl⟩ := hpart
    have hlength := h.length
    rw [Utf8.encode_append, Utf8.encode_append, List.length_append, List.length_append] at hlength
    omega

variable {T} in
theorem Reads.first {line : String} (h : T.Reads line.toList) : T.Reads (T.first line).toList := by
  rw [Texts.first, String.toList_ofList]
  exact h.of_infix (List.take_prefix _ _).isInfix

variable {T} in
theorem Reads.alone {line : String} (h : T.Reads line.toList) : T.Reads (T.alone line).toList := by
  rw [Texts.alone, String.toList_ofList]
  exact h.of_infix ((infix_bare _).trans (List.take_prefix _ _).isInfix)

variable [Engine σ]

/-- Whether neither the data of a session nor what is committed has changed, nor whether a
transaction is open. -/
structure Unmoved (s : σ) (d : Disk) (s' : σ) (d' : Disk) : Prop where
  seen : T.seen s' d' = T.seen s d
  committed : T.committed s' d' = T.committed s d
  autocommits : Engine.autocommits s' = Engine.autocommits s

variable {T} in
theorem Unmoved.trans {s s' s'' : σ} {d d' d'' : Disk} (h : T.Unmoved s d s' d')
    (h' : T.Unmoved s' d' s'' d'') : T.Unmoved s d s'' d'' where
  seen := h'.seen.trans h.seen
  committed := h'.committed.trans h.committed
  autocommits := h'.autocommits.trans h.autocommits

end Texts

/-- The promises of an engine on texts. -/
structure TextLaws {σ : Type} [Engine σ] (T : Texts σ) : Prop where
  /-- Preparing runs nothing. -/
  next_unmoved : ∀ (batch : Engine.Batch σ) s d,
    T.Unmoved s d (Engine.next batch s d).2.1 (Engine.next batch s d).2.2
  /-- Of a text without a statement none is prepared. -/
  next_of_idle : ∀ {line : String} (s : σ) d, T.Reads line.toList → isIdle line.toList = true →
    Engine.next (Engine.batch line) s d = (.ok none, s, d)
  idle_of_next : ∀ {line : String} {s : σ} {d}, T.Reads line.toList →
    (Engine.next (Engine.batch line) s d).1 = .ok none → isIdle line.toList = true
  /-- The next statement is looked for behind the terminator of the first one. -/
  rest_of_idle : ∀ {line : String} {s : σ} {d p rest s' d'}, T.Reads line.toList →
    Engine.next (Engine.batch line) s d = (.ok (some (p, rest)), s', d') →
    isIdle (T.after line.toList) = true → Engine.next rest s' d' = (.ok none, s', d')
  idle_of_rest : ∀ {line : String} {s : σ} {d p rest s' d'}, T.Reads line.toList →
    Engine.next (Engine.batch line) s d = (.ok (some (p, rest)), s', d') →
    (Engine.next rest s' d').1 = .ok none → isIdle (T.after line.toList) = true
  /-- What holds no statement is all before the first one. -/
  after_of_idle : ∀ {cs}, isIdle cs = true → T.after cs = []
  after_firstText : ∀ cs, T.after (T.firstText cs) = []
  after_bare : ∀ cs, T.after (bare (T.firstText cs)) = []
  /-- To prepare a statement, nothing behind it is read. -/
  next_of_first : ∀ {line : String} {s : σ} {d p rest s' d'}, T.Reads line.toList →
    Engine.next (Engine.batch (T.first line)) s d = (.ok (some (p, rest)), s', d') →
    ∃ p' rest', Engine.next (Engine.batch line) s d = (.ok (some (p', rest')), s', d') ∧
      ∀ s d, Engine.run p' s d = Engine.run p s d
  /-- Space, comments and terminators beside a statement are no part of it, unless its text is
  kept. -/
  next_of_alone : ∀ {line : String} (s : σ) d, T.Reads line.toList → isIdle line.toList = false →
    keepsText line.toList = false → PreparedAlike (T.alone line) line
      (statementStart line.toList) (Engine.next (Engine.batch (T.alone line)) s d)
      (Engine.next (Engine.batch line) s d)

namespace Texts

end Texts

end SqlReplay.Replay
