import StablePath.Proofs.CommandLine.Validation
import StablePath.Proofs.Config.Description
import StablePath.Proofs.Text.Lines

/-!
Reducing streams.

Without paths the program reads its input and reduces it line by line, up to the first line that is
no text. Paths that are given as arguments are reduced in the same way, so they may as well be
written to the input, one per line.
-/

namespace StablePath.CommandLine

open Files (Path)
open Text (Cut IsLine encode encodeLines)

/-! ### Paths behind two hyphens -/

/-- Reducing is not asked for by the name of a command. -/
def Parse.IsNamed (state : Parse) : Prop := ∀ paths, state.level ≠ .leaf (.reduce paths)

/-- A step that does not end with a command: only the end of the arguments does. -/
def Step.IsOpen : Step → Prop
  | .more next => next.IsNamed
  | .done (.run _ _) => False
  | .done _ => True

namespace Parse

variable {state : Parse} (hnamed : state.IsNamed)

include hnamed

lemma isOpen_withOptions (options : Option Options) : (state.withOptions options).IsOpen := by
  cases options with
  | none => trivial
  | some options => exact hnamed

lemma isOpen_long (text : List Char) : (state.long text).IsOpen := by
  unfold long
  dsimp only
  split
  · exact hnamed
  · exact isOpen_withOptions hnamed _
  · trivial
  · split <;> try split_ifs
    all_goals first
      | exact isOpen_withOptions hnamed _
      | trivial

lemma isOpen_short (text : List Char) : (state.short text).IsOpen := by
  fun_induction short with
  | case1 => exact hnamed
  | case2 state rest ih => exact ih hnamed
  | case3 => trivial
  | case4 => split_ifs <;> trivial
  | case5 => trivial

lemma isOpen_plain (arg : String) : (state.plain arg).IsOpen := by
  have hcommand : ∀ {command : Command}, (∀ paths, command ≠ .reduce paths) →
      (Step.more { level := .leaf command }).IsOpen := fun hne paths h => by
    cases h
    exact hne _ rfl
  unfold plain
  dsimp only
  split
  · split_ifs
    · exact hnamed
    · split
      · exact hcommand (by simp)
      · exact fun paths h => by cases h
      · trivial
      · exact hnamed
  · split
    · exact hcommand (by simp)
    · exact hcommand (by simp)
    · trivial
    · trivial
  · trivial

lemma isOpen_step (arg : String) : (state.step arg).IsOpen := by
  unfold step
  split
  · split_ifs
    · trivial
    · exact isOpen_withOptions hnamed _
  · split
    · exact isOpen_long hnamed _
    · exact isOpen_short hnamed _
    · have hplain := isOpen_plain hnamed arg
      split
      next next hnext =>
        rw [hnext] at hplain
        unfold checked
        split_ifs
        · exact hplain
        · exact hplain
        · trivial
      · exact hplain

variable {words : List String} {options : Options}

/-- What stands behind two hyphens are the paths. -/
lemma run_append (hwords : "--" ∉ words) (h : state.run words = .run (.reduce []) options)
    (paths : List String) :
    state.run (words ++ "--" :: paths) = .run (.reduce paths) options := by
  induction words generalizing state with
  | nil =>
    rw [run] at h
    unfold finish at h
    split_ifs at h with hready
    split at h
    next hlevel =>
      obtain ⟨hpaths, rfl⟩ : state.paths = [] ∧ state.options = options := by simpa using h
      have hpending : state.pending.isSome ≠ true := fun hsome => hready (by simp [hsome])
      rw [List.nil_append, run, if_pos rfl, if_neg hpending, hlevel]
      unfold finish
      rw [if_neg hready, hlevel, hpaths]
      simp
    · cases h
    next command hlevel =>
      cases h
      exact absurd hlevel (hnamed [])
  | cons word words ih =>
    obtain ⟨hword, hwords⟩ := not_or.mp (mt List.mem_cons.mpr hwords)
    have hopen := isOpen_step hnamed word
    rw [List.cons_append, run, if_neg (Ne.symm hword)]
    rw [run, if_neg (Ne.symm hword)] at h
    cases hstep : state.step word with
    | more next =>
      rw [hstep] at h hopen
      exact ih hopen hwords h
    | done answer =>
      rw [hstep] at h hopen
      dsimp only at h
      subst h
      exact hopen.elim

end Parse

/-! ### What is printed -/

/-- The text printed for paths: what the rules reduce each of them to, with a line feed. -/
def Prints (ruleset : Ruleset) (sighting : Sighting) (paths : List String) (output : String) :
    Prop :=
  ∃ reductions, List.Forall₂
      (fun path reduction => ruleset.reduce? sighting path.toList = some reduction) paths reductions ∧
    output = String.join (reductions.map fun reduction => String.ofList reduction.path ++ "\n")

variable {ruleset : Ruleset} {sighting : Sighting} {paths : List String} {output : String}

lemma exists_prints (ruleset : Ruleset) (sighting : Sighting) (paths : List String) :
    ∃ output, Prints ruleset sighting paths output := by
  have hreduced : ∀ path ∈ paths, ∃ reduction,
      ruleset.reduce? sighting path.toList = some reduction := by
    intro path _
    obtain ⟨reduction, hreduction, -⟩ := Ruleset.exists_reduce? ruleset.rules sighting path.toList
    exact ⟨reduction, hreduction⟩
  obtain ⟨reductions, hall⟩ := exists_forall₂_iff.mpr hreduced
  exact ⟨_, reductions, hall, rfl⟩

lemma Prints.exists_lines (h : Prints ruleset sighting paths output) :
    ∃ outs, paths.mapM (reduced? ruleset sighting) = some outs ∧ unlines outs = output := by
  obtain ⟨reductions, hall, rfl⟩ := h
  refine ⟨reductions.map fun reduction => String.ofList reduction.path, ?_, ?_⟩
  · rw [mapM_eq_some_iff, List.forall₂_map_right_iff]
    refine hall.imp fun path reduction hreduction => ?_
    rw [reduced?, hreduction, Option.map_some]
  · rw [unlines, List.map_map]
    rfl

/-- Paths that can all be read are printed. -/
lemma Prints.reduceAll_eq (h : Prints ruleset sighting paths output) :
    reduceAll ruleset sighting (paths.map some) = { output } := by
  obtain ⟨outs, houts, rfl⟩ := h.exists_lines
  have hall : (paths.map some).takeWhile Option.isSome = paths.map some :=
    List.takeWhile_eq_self_iff.mpr (by simp)
  have hknown : (paths.map some).filterMap id = paths := by simp
  unfold reduceAll
  dsimp only
  rw [hall, hknown, houts]
  simp

/-- The first that cannot be read ends the run with a failure, behind what has been printed. -/
lemma Prints.reduceAll_append (h : Prints ruleset sighting paths output)
    (rest : List (Option String)) :
    reduceAll ruleset sighting (paths.map some ++ none :: rest) =
      .failure output "Failed to read stdin" := by
  obtain ⟨outs, houts, rfl⟩ := h.exists_lines
  have hfirst : (paths.map some ++ none :: rest).takeWhile Option.isSome = paths.map some := by
    rw [List.takeWhile_append_of_pos (by simp)]
    simp
  have hknown : (paths.map some).filterMap id = paths := by simp
  unfold reduceAll
  dsimp only
  rw [hfirst, hknown, houts]
  simp

/-! ### Streams -/

lemma map_decode?_encode (paths : List String) :
    (paths.map encode).map Text.decode? = paths.map some := by
  rw [List.map_map]
  refine List.map_congr_left fun path _ => ?_
  exact Text.decode?_eq_some.mpr rfl

variable {input : List UInt8}

lemma reduce_nil : reduce ruleset sighting [] input =
    reduceAll ruleset sighting ((Text.lines input).map Text.decode?) := rfl

/-- A stream is reduced line by line, up to the first line that is no text. -/
lemma exists_reduce_of_cut {lines : List (List UInt8)} (hcut : Cut input lines) :
    ∃ paths output, Prints ruleset sighting paths output ∧
      (reduce ruleset sighting [] input).output = output ∧
      (lines = paths.map encode ∧ (reduce ruleset sighting [] input).code = 0 ∨
        ∃ bad rest, lines = paths.map encode ++ bad :: rest ∧ (∀ text, encode text ≠ bad) ∧
          (reduce ruleset sighting [] input).code = 1) := by
  have hreduce : reduce ruleset sighting [] input =
      reduceAll ruleset sighting (lines.map Text.decode?) := by
    rw [reduce_nil, hcut.lines_eq]
  obtain ⟨paths, hpaths⟩ := Text.exists_decoded lines
  obtain ⟨output, hprints⟩ := exists_prints ruleset sighting paths
  refine ⟨paths, output, hprints, ?_⟩
  rcases hpaths with rfl | ⟨bad, rest, rfl, hbad⟩
  · rw [hreduce, map_decode?_encode, hprints.reduceAll_eq]
    exact ⟨rfl, Or.inl ⟨rfl, rfl⟩⟩
  · rw [hreduce, List.map_append, List.map_cons, map_decode?_encode, Text.decode?_eq_none.mpr hbad,
      hprints.reduceAll_append]
    exact ⟨rfl, Or.inr ⟨bad, rest, rfl, hbad, rfl⟩⟩

/-- Paths are reduced as they are if they stand in the input, one per line. -/
lemma reduce_encodeLines (hne : paths ≠ []) (hlines : ∀ path ∈ paths, IsLine path)
    (input : List UInt8) :
    reduce ruleset sighting paths input = reduce ruleset sighting [] (encodeLines paths) := by
  rw [reduce_nil, (Text.cut_encodeLines hlines).lines_eq, map_decode?_encode, reduce,
    if_neg (by simpa using hne)]

/-! ### Runs -/

lemma run_of_reduce {around : Surroundings} {workingDir : Path} {words : List String}
    {options : Options} (hread : readArguments words = .run (.reduce paths) options) :
    run around workingDir words input =
      perform around workingDir input options (.reduce paths) := by
  unfold run
  rw [hread]

/-- **Reducing a stream is reducing its lines**, whatever the options say and in all surroundings.
Every input is cut into lines in one way. If the rules can be loaded, what is printed are the
reduced lines in order, each with a line feed. These are all lines, and the exit code is 0, or they
are those before the first one that encodes no text, and it is 1. Paths that can stand on a line
give the same report behind two hyphens as in the input, one per line. If the rules cannot be
loaded, nothing is printed and the exit code is 1. -/
theorem run_reduces_lines (around : Surroundings) (workingDir : Path) {words : List String}
    {options : Options} (hread : readArguments words = .run (.reduce []) options) :
    (∀ input, ∃! lines, Cut input lines) ∧
    (∀ ruleset, loadRuleset around workingDir options = .ok ruleset →
      ∀ input lines, Cut input lines →
        ∃ paths output, Prints ruleset ⟨options.filesystem, options.pid.getD 0⟩ paths output ∧
          (run around workingDir words input).output = output ∧
          (lines = paths.map encode ∧ (run around workingDir words input).code = 0 ∨
            ∃ bad rest, lines = paths.map encode ++ bad :: rest ∧ (∀ text, encode text ≠ bad) ∧
              (run around workingDir words input).code = 1)) ∧
    ("--" ∉ words → ∀ paths, paths ≠ [] → (∀ path ∈ paths, IsLine path) → ∀ input,
      run around workingDir (words ++ "--" :: paths) input =
        run around workingDir words (encodeLines paths)) ∧
    ∀ report, loadRuleset around workingDir options = .error report →
      ∀ words paths, readArguments words = .run (.reduce paths) options → ∀ input,
        (run around workingDir words input).output = "" ∧
        (run around workingDir words input).code = 1 := by
  refine ⟨fun input => ?_, fun ruleset hload input lines hcut => ?_,
    fun hwords paths hne hlines input => ?_, fun report hload words paths hread input => ?_⟩
  · obtain ⟨lines, hcut⟩ := Text.exists_cut input
    exact ⟨lines, hcut, fun other hother => hother.lines_eq.symm.trans hcut.lines_eq⟩
  · rw [run_of_reduce hread, perform, hload]
    exact exists_reduce_of_cut hcut
  · have hbehind : readArguments (words ++ "--" :: paths) = .run (.reduce paths) options :=
      Parse.run_append (fun _ h => by cases h) hwords hread paths
    rw [run_of_reduce hread, run_of_reduce hbehind, perform, perform]
    cases hload : loadRuleset around workingDir options with
    | error report => rfl
    | ok ruleset => exact reduce_encodeLines hne hlines input
  · obtain ⟨hcode, houtput⟩ := code_of_loadRuleset hload
    rw [run_of_reduce hread, perform, hload]
    exact ⟨houtput, hcode⟩

/-- A root directory with a configuration file that has one rule. -/
def versions : Surroundings := .ofTree
  (.dir [(Config.fileName, .file
    "disable-builtin-rules = true\n[[rules]]\npattern = 'v([0-9]+)'\n".toUTF8)]) [] [] []

theorem run_reduces_lines_versions :
    "--" ∉ ["--pid", "7"] ∧
    readArguments ["--pid", "7"] = .run (.reduce []) { pid := some 7 } ∧
    (∃ ruleset, loadRuleset versions ['/'] { pid := some 7 } = .ok ruleset ∧
      Prints ruleset ⟨none, 7⟩ ["v1"] "v*\n") ∧
    (run versions ['/'] ["--pid", "7"] [0x76, 0x31, 0x0D, 0x0A, 0xFF]).output = "v*\n" ∧
    (run versions ['/'] ["--pid", "7"] [0x76, 0x31, 0x0D, 0x0A, 0xFF]).code = 1 ∧
    run versions ['/'] ["--pid", "7", "--", "v1", "a/v2"] [] =
      run versions ['/'] ["--pid", "7"] (encodeLines ["v1", "a/v2"]) := by
  have hwords : "--" ∉ ["--pid", "7"] := by decide
  have hread : readArguments ["--pid", "7"] = .run (.reduce []) { pid := some 7 } := by decide +kernel
  obtain ⟨-, hlines, hpaths, -⟩ := run_reduces_lines versions ['/'] hread
  have hload : (loadRuleset versions ['/'] { pid := some 7 }).toBool = true := by decide +kernel
  have hprinted : (run versions ['/'] ["--pid", "7"] [0x76, 0x31, 0x0D, 0x0A, 0xFF]).output =
      "v*\n" := by
    decide +kernel
  cases hruleset : loadRuleset versions ['/'] { pid := some 7 } with
  | error report =>
    rw [hruleset] at hload
    cases hload
  | ok ruleset =>
    have hcut : Cut [0x76, 0x31, 0x0D, 0x0A, 0xFF] [encode "v1", [0xFF]] :=
      .returnFeed (by decide : 0x0A ∉ encode "v1") (.tail (by decide) (by decide))
    have hbad : ∀ text, encode text ≠ [0xFF] := Text.decode?_eq_none.mp (by decide +kernel)
    obtain ⟨paths, output, hprints, houtput, hend⟩ := hlines ruleset hruleset _ _ hcut
    obtain rfl : output = "v*\n" := houtput.symm.trans hprinted
    rcases hend with ⟨hall, -⟩ | ⟨bad, rest, hsplit, hfirst, hcode⟩
    · -- the last line encodes no text
      obtain ⟨text, -, htext⟩ := List.mem_map.mp (hall ▸ List.mem_cons_of_mem _ List.mem_cons_self)
      exact absurd htext (hbad text)
    · obtain rfl : paths = ["v1"] := by
        rcases paths with _ | ⟨path, _ | ⟨other, paths⟩⟩
        · exact absurd (List.cons.inj hsplit).1 (hfirst "v1")
        · exact congrArg (fun path => [path]) (Text.encode_injective (List.cons.inj hsplit).1.symm)
        · exact absurd (List.cons.inj (List.cons.inj hsplit).2).1.symm (hbad other)
      exact ⟨hwords, hread, ⟨ruleset, rfl, hprints⟩, hprinted, hcode,
        hpaths hwords ["v1", "a/v2"] (by decide) (by decide +kernel) []⟩

/-- A carriage return before a line feed goes, and a line that is no text ends the run. -/
example :
    (run versions ['/'] ["--pid", "7"] [0x76, 0x31, 0x0D, 0x0A, 0x0A, 0xFF, 0x0A, 0x76]).output =
      "v*\n\n" := by
  decide +kernel

end StablePath.CommandLine
