import Mathlib.Data.Nat.Count
import SqlReplay.Proofs.Weights.Pairing
import SqlReplay.Proofs.Weights.Proportion
import SqlReplay.Proofs.Weights.RoundTrip

/-!
# Looking up and drawing a pair of options

Looking up two options finds the first entry that names them, while draws add up all entries that
do.  A generated table names each pair once, but a table that is read may name one again and again:
then the two agree exactly if the entries after the first weigh nothing
(`Table.lookup_finds_first`).
-/

namespace SqlReplay.Weights

/-! ## Entries that name two options -/

namespace Table

variable (table : Table) (x y : String)

/-- The entries that name two options, in whichever order. -/
def naming : List Entry := table.entries.filter fun e => e.pair.same ⟨x, y⟩

/-- The weight that looking up two options finds, zero if it finds none. -/
def lookedUp : ℕ := (table.weightOf? x y).elim 0 UInt32.toNat

theorem weightOf?_eq_head? :
    table.weightOf? x y = (table.naming x y).head?.map Entry.weight := by
  rw [weightOf?, naming, List.head?_filter]

/-- Looking up leaves out the entries after the first. -/
theorem lookedUp_add :
    table.lookedUp x y + weightSum (table.naming x y).tail = weightSum (table.naming x y) := by
  rw [lookedUp, weightOf?_eq_head?]
  cases table.naming x y <;> rfl

/-- Looking up finds all there is exactly if the entries after the first weigh nothing. -/
theorem lookedUp_eq_iff :
    table.lookedUp x y = weightSum (table.naming x y) ↔
      ∀ e ∈ (table.naming x y).tail, e.weight = 0 := by
  rw [← lookedUp_add, ← weightSum_eq_zero_iff]
  omega

/-- No two entries name the same two options. -/
def Distinct : Prop := table.entries.Pairwise fun e f => e.pair.same f.pair = false

variable {table x y}

theorem Distinct.tail_naming (h : table.Distinct) : (table.naming x y).tail = [] := by
  have hpairwise : (table.naming x y).Pairwise fun e f => e.pair.same f.pair = false :=
    List.Pairwise.filter _ h
  cases hnaming : table.naming x y with
  | nil => rfl
  | cons e rest =>
    cases rest with
    | nil => rfl
    | cons f rest =>
      rw [hnaming] at hpairwise
      have hdifferent := (List.pairwise_cons.1 hpairwise).1 f List.mem_cons_self
      have hnames : ∀ g ∈ table.naming x y, g.pair.same ⟨x, y⟩ = true := by
        intro g hg
        exact (List.mem_filter.1 hg).2
      rw [hnaming] at hnames
      have he := hnames e List.mem_cons_self
      have hf := hnames f (List.mem_cons_of_mem e List.mem_cons_self)
      rw [Pair.same_comm] at hf
      rw [Pair.same_trans he hf] at hdifferent
      cases hdifferent

theorem Distinct.lookedUp_eq (h : table.Distinct) :
    table.lookedUp x y = weightSum (table.naming x y) := by
  rw [lookedUp_eq_iff, h.tail_naming]
  exact nofun

/-- The entries of a table that was read name different options. -/
theorem naming_self {text : List Char} (h : parse text = .ok table) (x : String) :
    table.naming x x = [] := by
  rw [naming, List.filter_eq_nil_iff]
  intro e he hsame
  apply (named_of_parse_eq_ok h e he).different
  rcases (Pair.same_iff _ _).1 hsame with ⟨hfirst, hsecond⟩ | ⟨hfirst, hsecond⟩
  · exact hfirst.trans hsecond.symm
  · exact hfirst.trans hsecond.symm

end Table

/-! ## Draws of such entries -/

namespace Sampler

/-- Of the numbers below the total weight, as many locate an entry of some kind as the entries of
that kind weigh together. -/
theorem count_locate (p : Entry → Bool) (entries : List Entry) :
    (weightSum entries).count (fun k => (entries[locate entries k]?).any p = true) =
      weightSum (entries.filter p) := by
  induction entries with
  | nil => rfl
  | cons first rest ih =>
    have hstretch : ∀ k < first.weight.toNat,
        ((first :: rest)[locate (first :: rest) k]?).any p = p first := by
      intro k hk
      rw [locate, if_pos hk]
      rfl
    have hrest : (fun k => ((first :: rest)[locate (first :: rest) (first.weight.toNat + k)]?).any p
        = true) = fun k => (rest[locate rest k]?).any p = true := by
      funext k
      have hbeyond : ¬ first.weight.toNat + k < first.weight.toNat := by omega
      rw [locate, if_neg hbeyond, Nat.add_sub_cancel_left, Nat.add_comm 1,
        List.getElem?_cons_succ]
    rw [weightSum_cons, Nat.count_add]
    simp only [hrest]
    rw [ih, List.filter_cons]
    cases hp : p first with
    | true =>
      rw [if_pos rfl, weightSum_cons, Nat.count_iff_forall.2]
      intro k hk
      rw [hstretch k hk, hp]
    | false =>
      rw [if_neg Bool.false_ne_true, Nat.count_iff_forall_not.2, Nat.zero_add]
      intro k hk
      rw [hstretch k hk, hp]
      exact Bool.false_ne_true

/-- The words that select an entry of some kind. -/
def selecting (sampler : Sampler) (p : Entry → Bool) : Set UInt64 :=
  {word | ∃ i e, sampler.select? word = some i ∧ sampler.entries[i]? = some e ∧ p e = true}

theorem ncard_selecting (sampler : Sampler) (fits : sampler.total ≤ UInt64.size)
    (p : Entry → Bool) : (sampler.selecting p).ncard =
      weightSum (sampler.entries.filter p) * (UInt64.size / sampler.total) := by
  have hwords : sampler.selecting p = {word | ∃ k ∈ (Finset.range sampler.total).filter
      (fun k => (sampler.entries[locate sampler.entries k]?).any p = true),
        Uniform.accept64? sampler.total word = some k} := by
    ext word
    simp only [selecting, Set.mem_ofPred_eq, select?, Option.map_eq_some_iff, Finset.mem_filter,
      Finset.mem_range]
    constructor
    · rintro ⟨_, e, ⟨k, hk, rfl⟩, he, hp⟩
      exact ⟨k, ⟨Uniform.lt_of_accept64?_eq_some sampler.total_pos fits hk, by rw [he]; exact hp⟩,
        hk⟩
    · rintro ⟨k, ⟨-, hany⟩, hk⟩
      obtain ⟨e, he, hp⟩ := (Option.any_eq_true _ _).1 hany
      exact ⟨_, e, ⟨k, hk, rfl⟩, he, hp⟩
  rw [hwords, Uniform.ncard_results (c := UInt64.size / sampler.total),
    ← Nat.count_eq_card_filter_range, sampler.total_eq_weightSum, count_locate]
  intro k hk
  rw [Finset.mem_filter, Finset.mem_range] at hk
  exact Uniform.ncard_accept64?_eq_some sampler.total_pos fits hk.1

end Sampler

namespace Table

/-- In a table that was read, looking up two options finds the first entry that names them, in
whichever order, and draws give the options their share of the total weight by all entries that do.
The two agree exactly if the entries after the first weigh nothing, so they agree on all options if
no two entries name the same. -/
theorem lookup_finds_first {origin : Storage.Path} {text : List Char} {table : Table}
    (accepted : ofText origin text = .ok table) (x y : String) :
    let named := weightSum (table.naming x y)
    table.weightOf? x y = (table.naming x y).head?.map Entry.weight ∧
    table.lookedUp x y ≤ named ∧
    (table.lookedUp x y = named ↔ ∀ e ∈ (table.naming x y).tail, e.weight = 0) ∧
    (table.Distinct → table.lookedUp x y = named) ∧
    (x = y → table.weightOf? x y = none ∧ named = 0) ∧
    ∀ sampler, Sampler.ofTable table = .ok sampler → sampler.total ≤ 2 ^ 64 →
      sampler.total = weightSum table.entries ∧
      (sampler.selecting fun e => e.pair.same ⟨x, y⟩).ncard = named * (2 ^ 64 / sampler.total) := by
  intro named
  have hsum : table.lookedUp x y + weightSum (table.naming x y).tail = named :=
    table.lookedUp_add x y
  refine ⟨table.weightOf?_eq_head? x y, by omega, table.lookedUp_eq_iff x y, Distinct.lookedUp_eq,
    ?_, ?_⟩
  · rintro rfl
    have hnone := naming_self ((ofText_eq_ok_iff origin text table).1 accepted) x
    refine ⟨?_, ?_⟩
    · rw [weightOf?_eq_head?, hnone]
      rfl
    · show weightSum (table.naming x x) = 0
      rw [hnone, weightSum_nil]
  · intro sampler hsampler fits
    have hentries := Sampler.entries_of_ofTable_eq_ok hsampler
    have hcount := sampler.ncard_selecting fits fun e => e.pair.same ⟨x, y⟩
    rw [hentries] at hcount
    exact ⟨by rw [sampler.total_eq_weightSum, hentries], hcount⟩

/-- The table of a text that names two options twice, first in the one order and then in the
other. -/
def repeating : Table := ⟨[⟨⟨"a", "b"⟩, 1⟩, ⟨⟨"c", "b"⟩, 4⟩, ⟨⟨"b", "a"⟩, 2⟩]⟩

/-- Of the words for such a table, those that draw the two options are three parts in seven, though
looking them up finds a weight of one. -/
theorem lookup_finds_first_repeating :
    ofText (.ofString "w.txt") "a,b:1\nc,b:4\n b,a:+2".toList = .ok repeating ∧
      repeating.weightOf? "b" "a" = some 1 ∧ weightSum (repeating.naming "b" "a") = 3 ∧
      repeating.lookedUp "b" "a" ≠ 3 ∧
      ∃ sampler, Sampler.ofTable repeating = .ok sampler ∧ sampler.total = 7 ∧
        (sampler.selecting fun e => e.pair.same ⟨"b", "a"⟩).ncard = 3 * (2 ^ 64 / 7) := by
  have accepted : ofText (.ofString "w.txt") "a,b:1\nc,b:4\n b,a:+2".toList = .ok repeating := by
    decide +kernel
  obtain ⟨hfirst, -, hagree, -, -, hdraws⟩ := lookup_finds_first accepted "b" "a"
  have hdifferent : repeating.lookedUp "b" "a" ≠ 3 := by
    intro heq
    have hzero := hagree.1 heq ⟨⟨"b", "a"⟩, 2⟩ (by decide)
    cases hzero
  obtain ⟨sampler, hsampler⟩ := (Sampler.exists_ofTable_eq_ok_iff repeating).2 (by decide)
  have htotal : sampler.total = 7 := by
    rw [sampler.total_eq_weightSum, Sampler.entries_of_ofTable_eq_ok hsampler]
    rfl
  have hcount := (hdraws sampler hsampler (by rw [htotal]; decide)).2
  rw [htotal] at hcount
  exact ⟨accepted, hfirst, rfl, hdifferent, sampler, hsampler, htotal, hcount⟩

/-- A text can be read although it names two options twice, and looking them up then misses a
part of their weight. -/
theorem lookup_misses_repeated : ∃ table,
    ofText (.ofString "w.txt") "a,b:1\nb,a:2\n".toList = .ok table ∧ ¬ table.Distinct ∧
      table.lookedUp "a" "b" = 1 ∧ weightSum (table.naming "a" "b") = 3 := by
  refine ⟨⟨[⟨⟨"a", "b"⟩, 1⟩, ⟨⟨"b", "a"⟩, 2⟩]⟩, by decide +kernel, ?_, by decide, by decide⟩
  unfold Distinct
  decide

end Table

end SqlReplay.Weights
