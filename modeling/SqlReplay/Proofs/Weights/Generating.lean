import SqlReplay.Proofs.Text.Utf8
import SqlReplay.Proofs.Weights.Pairing
import SqlReplay.Proofs.Weights.Publication
import SqlReplay.Proofs.Weights.RoundTrip
import SqlReplay.Weights.Generation

/-!
# Generating from settings

A generation that succeeds has put the text of its table in place and tells of that table; one that
fails tells of nothing and leaves what stood at the path (`generate_all_or_nothing`).  The table
that is told of is the one that is loaded from the path, since the names of a catalog need no escape
(`Table.named_of_mem_generate`).
-/

namespace SqlReplay.Weights

open Storage

variable {σ : Type} [WordSource σ]

namespace Table

theorem named_of_mem_generate (catalog : Catalog) (range : Range) (s : σ) {e : Entry}
    (he : e ∈ (generate catalog range s).1.entries) : e.Named := by
  have hmem : e.pair ∈ (generate catalog range s).1.pairs := List.mem_map_of_mem he
  rw [pairs_generate] at hmem
  obtain ⟨hfirst, hsecond⟩ := mem_of_mem_pairsOf hmem
  exact ⟨catalog.wellFormed _ hfirst, catalog.wellFormed _ hsecond,
    ne_of_mem_generate catalog range s he⟩

theorem totalWeight_bounds {table : Table} {low high : ℕ}
    (h : ∀ e ∈ table.entries, low ≤ e.weight.toNat ∧ e.weight.toNat ≤ high) :
    table.size * low ≤ table.totalWeight ∧ table.totalWeight ≤ table.size * high := by
  obtain ⟨entries⟩ := table
  induction entries with
  | nil => simp [size, totalWeight]
  | cons e entries ih =>
    obtain ⟨hlow, hhigh⟩ := h e List.mem_cons_self
    have hrest := ih fun e' he' => h e' (List.mem_cons_of_mem e he')
    simp only [size, totalWeight, List.length_cons, List.map_cons, List.foldr_cons,
      Nat.succ_mul] at hrest ⊢
    omega

/-- A table that stands at a path as text, with names that need no escape, is loaded from there. -/
theorem load_of_read {table : Table} {d : Disk} {path : Path}
    (hread : d.read path = .ok (.plain (Utf8.encode table.render)))
    (hnamed : ∀ e ∈ table.entries, e.Named) : load d path = .ok table := by
  simp only [load, hread, Content.bytes, Utf8.decode_encode]
  exact (ofText_eq_ok_iff path _ _).2 (parse_render hnamed)

end Table

/-- With a seed or without one, the table of a catalog is a generated one. -/
theorem exists_seededTable_eq (catalog : Catalog) (range : Range) (seed : Option UInt64)
    (source : σ) : ∃ (τ : Type) (_ : WordSource τ) (s : τ),
      seededTable catalog range seed source = (Table.generate catalog range s).1 := by
  cases seed with
  | none => exact ⟨σ, inferInstance, source, rfl⟩
  | some seed => exact ⟨ChaCha.Generator, inferInstance, .ofSeed seed, rfl⟩

theorem size_seededTable (catalog : Catalog) (range : Range) (seed : Option UInt64) (source : σ) :
    (seededTable catalog range seed source).size = catalog.pairCount := by
  obtain ⟨τ, _, s, htable⟩ := exists_seededTable_eq catalog range seed source
  rw [htable, Table.size_generate]

theorem mem_seededTable {catalog : Catalog} {range : Range} {seed : Option UInt64} {source : σ}
    {e : Entry} (he : e ∈ (seededTable catalog range seed source).entries) :
    e.Named ∧ range.min ≤ e.weight ∧ e.weight ≤ range.max := by
  obtain ⟨τ, _, s, htable⟩ := exists_seededTable_eq catalog range seed source
  rw [htable] at he
  exact ⟨Table.named_of_mem_generate catalog range s he, contains_of_mem_weigh range _ s he⟩

variable {config : Config} {source : σ} {d : Disk}

theorem names_of_catalog {catalog : Catalog} (h : config.catalog = .ok catalog) :
    catalog.names = config.weights.options := by
  unfold Config.catalog at h
  cases hlist : Catalog.ofList config.weights.options with
  | error fault =>
    rw [hlist] at h
    cases h
  | ok found =>
    rw [hlist] at h
    cases h
    exact Catalog.names_of_ofList_eq_ok hlist

theorem bounds_of_range {range : Range} (h : config.range = .ok range) :
    range.min = config.weights.minWeight ∧ range.max = config.weights.maxWeight := by
  unfold Config.range Range.ofBounds at h
  split_ifs at h <;> cases h
  exact ⟨rfl, rfl⟩

theorem generate_eq_ok {summary : Summary} (h : (generate config source d).result = .ok summary) :
    ∃ catalog range e, config.catalog = .ok catalog ∧ config.range = .ok range ∧
      (seededTable catalog range config.weights.seed source).persist d config.weights.outputPath =
        (.ok (), e) ∧
      (generate config source d).disk = e ∧ (generate config source d).events = [summary.event] ∧
      summary = ⟨config.weights.outputPath, catalog.size,
        (seededTable catalog range config.weights.seed source).size, range, config.weights.seed,
        (seededTable catalog range config.weights.seed source).totalWeight⟩ := by
  unfold generate at h ⊢
  cases hcatalog : config.catalog with
  | error fault =>
    rw [hcatalog] at h
    cases h
  | ok catalog =>
    cases hrange : config.range with
    | error fault =>
      simp only [hcatalog, hrange] at h
      cases h
    | ok range =>
      simp only [hcatalog, hrange] at h ⊢
      cases hpersist : (seededTable catalog range config.weights.seed source).persist d
          config.weights.outputPath with
      | mk result e =>
        rw [hpersist] at h
        cases result with
        | error fault => cases h
        | ok _ =>
          cases h
          exact ⟨catalog, range, e, rfl, rfl, hpersist, rfl, rfl, rfl⟩

theorem generate_eq_error {fault : Error} (h : (generate config source d).result = .error fault) :
    (generate config source d).events = [] ∧ ((generate config source d).disk = d ∨
      ∃ table : Table, table.persist d config.weights.outputPath =
        (.error fault, (generate config source d).disk)) := by
  unfold generate at h ⊢
  cases hcatalog : config.catalog with
  | error fault => exact ⟨rfl, .inl rfl⟩
  | ok catalog =>
    cases hrange : config.range with
    | error fault => exact ⟨rfl, .inl rfl⟩
    | ok range =>
      simp only [hcatalog, hrange] at h ⊢
      cases hpersist : (seededTable catalog range config.weights.seed source).persist d
          config.weights.outputPath with
      | mk result e =>
        rw [hpersist] at h
        cases result with
        | ok _ => cases h
        | error fault =>
          cases h
          exact ⟨rfl, .inr ⟨_, hpersist⟩⟩

/-- A generation that succeeds has replaced what was at the path by the text of the table that it
tells of.  One that fails tells of nothing and changes no file there but one that had the name of
the draft as well; a file that can be read only afterwards stood where it stands, behind a directory
that was missing. -/
theorem generate_all_or_nothing (config : Config) (source : σ) {d : Disk} (sound : d.Sound) :
    let path := config.weights.outputPath
    let n := config.weights.options.length
    let run := generate config source d
    (∀ summary, run.result = .ok summary →
      ∃ catalog range, config.catalog = .ok catalog ∧ config.range = .ok range ∧
        let table := seededTable catalog range config.weights.seed source
        run.disk.read path = .ok (.plain (Utf8.encode table.render)) ∧
        Table.load run.disk path = .ok table ∧
        (summary.options = n ∧ summary.pairs = n * (n - 1) / 2 ∧ summary.pairs = table.size ∧
          summary.totalWeight = table.totalWeight ∧
          summary.pairs * config.weights.minWeight.toNat ≤ summary.totalWeight ∧
          summary.totalWeight ≤ summary.pairs * config.weights.maxWeight.toNat) ∧
        ∃ event, run.events = [event] ∧ event.kind = .weightsGenerated ∧
          event.count = some summary.pairs) ∧
    (∀ fault, run.result = .error fault →
      run.events = [] ∧
      (∀ content, d.read path = .ok content → run.disk.read path = .ok content ∨
        ∃ place id, d.locate path = .ok (.file place id) ∧ Drafted path d run.disk id) ∧
      ∀ content, run.disk.read path = .ok content →
        ∃ place id file, run.disk.locate path = .ok (.file place id) ∧
          d.node? place = some (.file id) ∧ d.file? id = some file ∧
          (content = file.content ∨ Drafted path d run.disk id) ∧
          (d.read path = .ok file.content ∨
            [Path.dot, Path.dot] ∈ path.components ∧ d.locate path = .error .missing)) := by
  intro path n run
  refine ⟨fun summary hresult => ?_, fun fault hresult => ?_⟩
  · obtain ⟨catalog, range, e, hcatalog, hrange, hpersist, hdisk, hevents, rfl⟩ :=
      generate_eq_ok hresult
    obtain ⟨hmin, hmax⟩ := bounds_of_range hrange
    have hnames := names_of_catalog hcatalog
    have hread := Table.persist_eq_ok sound.filed hpersist
    have hsize := size_seededTable catalog range config.weights.seed source
    have hweights : ∀ e ∈ (seededTable catalog range config.weights.seed source).entries,
        range.min.toNat ≤ e.weight.toNat ∧ e.weight.toNat ≤ range.max.toNat :=
      fun _ he => (mem_seededTable he).2
    have htotal := Table.totalWeight_bounds hweights
    rw [hmin, hmax] at htotal
    refine ⟨catalog, range, hcatalog, hrange, ?_, ?_, ?_, ?_⟩
    · rw [show run.disk = e from hdisk, hread]
    · rw [show run.disk = e from hdisk, Table.load_of_read hread fun _ he => (mem_seededTable he).1]
    · have hpairs : catalog.pairCount = catalog.size * (catalog.size - 1) / 2 := rfl
      have hoptions : catalog.size = config.weights.options.length := congrArg List.length hnames
      rw [hoptions] at hpairs
      exact ⟨hoptions, hsize.trans hpairs, rfl, rfl, htotal⟩
    · exact ⟨_, hevents, rfl, rfl⟩
  · obtain ⟨hevents, hdisk | ⟨table, hpersist⟩⟩ := generate_eq_error hresult
    · rw [show run.disk = d from hdisk]
      refine ⟨hevents, fun _ => .inl, fun content hread => ?_⟩
      obtain ⟨-, place, id, file, hlocate, hfile, rfl⟩ := Disk.read_eq_ok.1 hread
      have hnode := (Disk.locate_eq_file_iff.1 hlocate).2
      exact ⟨place, id, file, hlocate, hnode, hfile, .inl rfl, .inl hread⟩
    · exact ⟨hevents, fun _ => Table.read_of_persist_eq_error sound.filed hpersist,
        fun _ => Table.read_before_persist_eq_error sound hpersist⟩

theorem generate_all_or_nothing_anew :
    let config : Config := { Config.default (.ofString "home") with
      weights := ⟨.ofString "w.txt", 5, 5, none, ["a", "b", "c"]⟩ }
    let d := Disk.initial.place (.ofString "w.txt") (Utf8.ofString "old")
    let run := generate config (⟨fun _ => 0⟩ : WordStream) d
    d.Sound ∧ ∃ summary table, run.result = .ok summary ∧ summary.pairs = 3 ∧
      summary.totalWeight = 15 ∧ table.totalWeight = 15 ∧
      Table.load run.disk (.ofString "w.txt") = .ok table := by
  intro config d run
  have hsound : d.Sound := Disk.sound_initial.place _ _
  cases hresult : run.result with
  | error fault =>
    have hok : (run.result.map fun _ => ()) = .ok () := by decide +kernel
    rw [hresult] at hok
    cases hok
  | ok summary =>
    obtain ⟨catalog, range, -, -, -, hload, ⟨-, hpairs, -, htotal, hlow, hhigh⟩, -⟩ :=
      (generate_all_or_nothing config _ hsound).1 summary hresult
    have hlength : config.weights.options.length = 3 := rfl
    have hthree : summary.pairs = 3 := by rw [hpairs, hlength]
    have hweight : summary.totalWeight = 15 := by
      rw [hthree] at hlow hhigh
      exact Nat.le_antisymm hhigh hlow
    exact ⟨hsound, summary, _, rfl, hthree, hweight, htotal.symm.trans hweight, hload⟩

/-- A path that goes back out of a directory that is missing leads nowhere.  It leads to the file
there once the directory was made, although the draft could not be written.  A file that has the
name of the draft as well is written to, although the device was full at first. -/
theorem generate_error_touches_file :
    let config (path : String) : Config := { Config.default (.ofString "home") with
      weights := ⟨.ofString path, 1, 100, some 7, ["a", "b"]⟩ }
    let words : WordStream := ⟨fun _ => 0⟩
    let d := Disk.initial.place (.ofString "w.txt") (Utf8.ofString "old")
    let barred := (d.makeDirectories (.ofString "w.txt.tmp")).2
    let linked := { d.setNode [Utf8.ofString "w.txt.tmp", Utf8.ofString "work"] (.file 2) with
      faults := [none, some .noSpace] }
    let uncovering := generate (config "a/../w.txt") words barred
    let overwriting := generate (config "w.txt") words linked
    ((uncovering.result.map fun _ => ()) =
        .error (.io (.ofString "a/../w.txt.tmp") .isDirectory) ∧
      barred.read (.ofString "a/../w.txt") = .error .missing ∧
      uncovering.disk.read (.ofString "a/../w.txt") = .ok (.plain (Utf8.ofString "old"))) ∧
    (overwriting.result.map fun _ => ()) = .error (.io (.ofString "w.txt.tmp") .noSpace) ∧
      linked.read (.ofString "w.txt") = .ok (.plain (Utf8.ofString "old")) ∧
      overwriting.disk.read (.ofString "w.txt") = .ok (.plain (Utf8.ofString "a,b:42\n")) := by
  decide +kernel

end SqlReplay.Weights
