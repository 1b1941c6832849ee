import GameBox.Command.Run
import Mathlib.Algebra.BigOperators.Group.List.Lemmas
import Mathlib.Algebra.Order.Ring.Nat
import Mathlib.Data.List.Dedup

/-!
# The commands agree about a file

Three commands report on one file and a fourth one surveys many.  They decode a file in the same
way, and then each of them asks for another part of it: `info` for nothing more, `chunks` for the
chunk table, `refs` for the table of references, and the survey for every part.  So what the exit
codes of the three say about a file has to fit what the survey prints about it.

How files are opened and which paths a pattern leads to is not looked into: all that follows holds
for any `FileSystem`.

## One file

`FileSystem.Decodes` says that the file at a path can be decoded and that what it holds has a
property.  The exit code of each command is settled by one such property.

## Many files

Every path of a survey is exactly one of three: it is complete, it is decoded in part, or it is a
failure.  The survey counts the first and lists the last, and it prints what is left of the number
of files as the second.  That this is the number of files decoded in part, and that nothing is
subtracted from too little, is a matter of counting (`FileSystem.count_paths`).

The categories are counted apart, over the files that are no failures.  The survey collects their
names and sorts them; `FileSystem.tally` goes through all categories in the order of their names and
keeps those that occur.  Two lists with the same members in the same order are the same
(`Report.Survey.count_eq`), and the counts add up to the number of these files
(`Report.Survey.sum_count`).

`Program.commands_agree` puts all this together.
-/

namespace GameBox

variable {system : FileSystem} {paths : List String} {path : String} {P Q : File → Prop}

/-! ## One file -/

/-- The file at a path can be opened and decoded, and what it holds has a property. -/
def FileSystem.Decodes (system : FileSystem) (path : String) (P : File → Prop) : Prop :=
  ∃ data file, system.contents path = .ok data ∧ File.parse data = .ok file ∧ P file

namespace Report

theorem decode_eq_ok_iff {contents : Except FileError Octets} {file : File} :
    decode contents = .ok file ↔ ∃ data, contents = .ok data ∧ File.parse data = .ok file := by
  cases contents with
  | error error => simp [decode]
  | ok data => simp [decode]

/-- A report on a file fails exactly if the file cannot be decoded or the report itself fails. -/
theorem code_onFile (name : String) (contents : Except FileError Octets) (report : File → Output) :
    (onFile name contents report).code =
      match decode contents with
      | .error _ => 1
      | .ok file => (report file).code := by
  rw [onFile]
  cases decode contents with
  | error error => rfl
  | ok file => rfl

end Report

namespace FileSystem

theorem decodes_iff :
    system.Decodes path P ↔ ∃ file, Report.decode (system.contents path) = .ok file ∧ P file := by
  simp only [Decodes, Report.decode_eq_ok_iff]
  constructor
  · rintro ⟨data, file, hopen, hparse, hP⟩
    exact ⟨file, ⟨data, hopen, hparse⟩, hP⟩
  · rintro ⟨file, ⟨data, hopen, hparse⟩, hP⟩
    exact ⟨data, file, hopen, hparse, hP⟩

theorem decodes_of_ok {file : File} (h : Report.decode (system.contents path) = .ok file) :
    system.Decodes path P ↔ P file := by
  simp [decodes_iff, h]

theorem not_decodes_of_error {error : DecodeError}
    (h : Report.decode (system.contents path) = .error error) : ¬system.Decodes path P := by
  simp [decodes_iff, h]

theorem Decodes.imp (himp : ∀ file, P file → Q file) (h : system.Decodes path P) :
    system.Decodes path Q := by
  obtain ⟨data, file, hopen, hparse, hP⟩ := h
  exact ⟨data, file, hopen, hparse, himp file hP⟩

instance (system : FileSystem) (path : String) (P : File → Prop) [DecidablePred P] :
    Decidable (system.Decodes path P) :=
  decidable_of_iff ((Report.decode (system.contents path)).toOption.any P = true) (by
    rw [decodes_iff]
    cases Report.decode (system.contents path) with
    | error error => simp [Except.toOption]
    | ok file => simp [Except.toOption])

end FileSystem

namespace Program

/-- `info` succeeds on every file that can be decoded, whatever is wrong with its parts. -/
theorem code_info (system : FileSystem) (path : String) (json : Bool) :
    (answer system (.info path json)).code =
      if system.Decodes path fun _ => True then 0 else 1 := by
  rw [answer, Report.info, Report.code_onFile]
  cases hdecode : Report.decode (system.contents path) with
  | error error => rw [if_neg (FileSystem.not_decodes_of_error hdecode)]
  | ok file =>
    rw [if_pos ((FileSystem.decodes_of_ok hdecode).2 trivial)]
    cases json <;> rfl

theorem code_chunks (system : FileSystem) (path : String) :
    (answer system (.chunks path)).code =
      if system.Decodes path fun file => file.directory.isOk then 0 else 1 := by
  rw [answer, Report.chunks, Report.code_onFile]
  cases hdecode : Report.decode (system.contents path) with
  | error error => rw [if_neg (FileSystem.not_decodes_of_error hdecode)]
  | ok file =>
    simp only [FileSystem.decodes_of_ok hdecode]
    cases file.directory with
    | error error => rfl
    | ok directory => rfl

theorem code_refs (system : FileSystem) (path : String) :
    (answer system (.refs path)).code =
      if system.Decodes path fun file => file.refTable.isOk then 0 else 1 := by
  rw [answer, Report.refs, Report.code_onFile]
  cases hdecode : Report.decode (system.contents path) with
  | error error => rw [if_neg (FileSystem.not_decodes_of_error hdecode)]
  | ok file =>
    simp only [FileSystem.decodes_of_ok hdecode]
    cases file.refTable with
    | error error => rfl
    | ok table => rfl

end Program

/-! ## Categories -/

namespace Category

/-- The categories in the order of their names. -/
def alphabetical : List Category :=
  [challenge, collection, collector, hms, other, plug, profile, replay, skin]

theorem mem_alphabetical (category : Category) : category ∈ alphabetical := by
  cases category <;> decide

theorem pairwise_alphabetical : (alphabetical.map name).Pairwise (· < ·) := by decide

theorem nodup_alphabetical : (alphabetical.map name).Nodup :=
  pairwise_alphabetical.imp fun h => String.ne_of_lt h

theorem name_inj {category category' : Category} :
    category.name = category'.name ↔ category = category' :=
  ⟨fun h => List.inj_on_of_nodup_map nodup_alphabetical (mem_alphabetical category)
    (mem_alphabetical category') h, congrArg name⟩

end Category

namespace Report.Survey

theorem nodup_eraseDups (names : List String) : names.eraseDups.Nodup := by
  match names with
  | [] => exact List.nodup_nil
  | name :: names =>
    rw [List.eraseDups_cons]
    refine List.nodup_cons.2 ⟨?_, nodup_eraseDups _⟩
    simp [List.mem_eraseDups]
termination_by names.length
decreasing_by
  rw [List.length_cons]
  exact Nat.lt_succ_of_le (List.length_filter_le _ _)

/-- The names of categories that occur, sorted, are in the order of all categories. -/
theorem mergeSort_names (categories : List Category) :
    ((categories.map Category.name).eraseDups.mergeSort fun a b => a ≤ b) =
      (Category.alphabetical.filter fun category => category ∈ categories).map Category.name := by
  generalize hnames : (categories.map Category.name).eraseDups = names
  have htrans : ∀ a b c : String, decide (a ≤ b) = true → decide (b ≤ c) = true →
      decide (a ≤ c) = true := fun a b c hab hbc =>
    decide_eq_true (String.le_trans (of_decide_eq_true hab) (of_decide_eq_true hbc))
  have htotal : ∀ a b : String, (decide (a ≤ b) || decide (b ≤ a)) = true := fun a b => by
    simpa only [Bool.or_eq_true, decide_eq_true_eq] using String.le_total a b
  have hsub : ((Category.alphabetical.filter fun category => category ∈ categories).map
      Category.name).Sublist (Category.alphabetical.map Category.name) :=
    List.filter_sublist.map _
  refine List.Perm.eq_of_pairwise (fun a b _ _ => String.le_antisymm)
    ((List.pairwise_mergeSort htrans htotal names).imp fun h => of_decide_eq_true h)
    ((Category.pairwise_alphabetical.sublist hsub).imp Std.le_of_lt) ?_
  refine (List.mergeSort_perm _ _).trans ((List.perm_ext_iff_of_nodup (hnames ▸ nodup_eraseDups _)
    (Category.nodup_alphabetical.sublist hsub)).2 fun name => ?_)
  simp [← hnames, Category.mem_alphabetical]

/-- The counts are those of the categories that occur, in the order of their names. -/
theorem count_eq (files : List File) :
    count files = (Category.alphabetical.filter fun category =>
        0 < files.countP fun file => file.header.category = category).map
      fun category =>
        (category.name, files.countP fun file => file.header.category = category) := by
  have hcount : ∀ category : Category,
      (files.map fun file => file.header.category.name).count category.name =
        files.countP fun file => file.header.category = category := by
    intro category
    rw [List.count, List.countP_map]
    refine List.countP_congr fun file _ => ?_
    simp [Category.name_inj]
  have hoccurs : ∀ category : Category,
      category ∈ files.map (fun file => file.header.category) ↔
        0 < files.countP fun file => file.header.category = category := by
    intro category
    simp [List.countP_pos_iff]
  have hnames : files.map (fun file => file.header.category.name) =
      (files.map fun file => file.header.category).map Category.name := by
    rw [List.map_map]
    rfl
  rw [count, hnames, mergeSort_names, ← hnames, List.map_map]
  simp only [hoccurs, Function.comp_def, hcount]

/-- The counts of the categories add up to the number of files. -/
theorem sum_count (files : List File) : ((count files).map Prod.snd).sum = files.length := by
  have hperm : ∀ names : List String,
      (names.eraseDups.mergeSort fun a b => a ≤ b).Perm names.dedup := fun names =>
    (List.mergeSort_perm _ _).trans <|
      (List.perm_ext_iff_of_nodup (nodup_eraseDups names) names.nodup_dedup).2 fun name => by
        rw [List.mem_eraseDups, List.mem_dedup]
  rw [count, List.map_map]
  refine ((hperm _).map _).sum_eq.trans ?_
  refine (List.sum_map_count_dedup_eq_length _).trans ?_
  rw [List.length_map]

end Report.Survey

/-! ## Many files -/

namespace FileSystem

/-- The counts of the program over the files at paths. -/
def survey (system : FileSystem) (paths : List String) : Report.Survey :=
  .ofFiles (paths.map fun path => (path, system.contents path))

/-- How many of the files at paths are of a category. -/
def numberOf (system : FileSystem) (paths : List String) (category : Category) : Nat :=
  paths.countP fun path => system.Decodes path fun file => file.header.category = category

/-- The categories of the files at paths in alphabetical order, each with its number. -/
def tally (system : FileSystem) (paths : List String) : List (String × Nat) :=
  (Category.alphabetical.filter fun category => 0 < system.numberOf paths category).map
    fun category => (category.name, system.numberOf paths category)

/-- Why the file at a path cannot be decoded. -/
def reason (system : FileSystem) (path : String) : String :=
  match system.contents path with
  | .error error => (DecodeError.file error).message
  | .ok data =>
    match File.parse data with
    | .error error => error.message
    | .ok _ => ""

theorem reason_of_error {error : DecodeError}
    (h : Report.decode (system.contents path) = .error error) :
    system.reason path = error.message := by
  rw [reason]
  cases hcontents : system.contents path with
  | error cause =>
    rw [hcontents] at h
    cases h
    rfl
  | ok data =>
    rw [hcontents] at h
    simp only [show File.parse data = .error error from h]

/-- What the file at a path holds, if it can be decoded. -/
def file? (system : FileSystem) (path : String) : Option File :=
  (Report.decode (system.contents path)).toOption

/-- Asking what a file holds is asking whether it can be decoded and holds that. -/
theorem getD_map_file? (system : FileSystem) (path : String) (p : File → Bool) :
    ((system.file? path).map p).getD false = decide (system.Decodes path fun file => p file) := by
  rw [Bool.eq_iff_iff, decide_eq_true_iff, decodes_iff, file?]
  cases Report.decode (system.contents path) with
  | error error => simp [Except.toOption]
  | ok file => simp [Except.toOption]

theorem isSome_file? (system : FileSystem) (path : String) :
    (system.file? path).isSome = decide (system.Decodes path fun _ => True) := by
  rw [Bool.eq_iff_iff, decide_eq_true_iff, decodes_iff, file?]
  cases Report.decode (system.contents path) with
  | error error => simp [Except.toOption]
  | ok file => simp [Except.toOption]

/-- Counting among the files that can be decoded. -/
theorem countP_file? (system : FileSystem) (paths : List String) (p : File → Bool) :
    (paths.filterMap system.file?).countP p =
      paths.countP fun path => system.Decodes path fun file => p file := by
  rw [List.countP_filterMap]
  exact List.countP_congr fun path _ => by rw [getD_map_file?]

theorem complete_survey (system : FileSystem) (paths : List String) :
    (system.survey paths).complete =
      paths.countP fun path => system.Decodes path fun file => file.isComplete := by
  rw [← countP_file?]
  simp only [survey, Report.Survey.ofFiles, List.filterMap_map]
  rfl

theorem categories_survey (system : FileSystem) (paths : List String) :
    (system.survey paths).categories = Report.Survey.count (paths.filterMap system.file?) := by
  simp only [survey, Report.Survey.ofFiles, List.filterMap_map]
  rfl

theorem countP_category (system : FileSystem) (paths : List String) (category : Category) :
    ((paths.filterMap system.file?).countP fun file => file.header.category = category) =
      system.numberOf paths category := by
  rw [countP_file?]
  exact List.countP_congr fun path _ => by simp

/-- The program lists the categories that occur. -/
theorem count_eq_tally (system : FileSystem) (paths : List String) :
    Report.Survey.count (paths.filterMap system.file?) = system.tally paths := by
  rw [Report.Survey.count_eq, tally]
  simp only [countP_category]

/-- The failures are the files that cannot be decoded, in the order of the paths. -/
theorem failures_survey (system : FileSystem) (paths : List String) :
    (system.survey paths).failures =
      (paths.filter fun path => ¬system.Decodes path fun _ => True).map
        fun path => (path, system.reason path) := by
  simp only [survey, Report.Survey.ofFiles, List.filterMap_map]
  induction paths with
  | nil => rfl
  | cons path paths ih =>
    cases hdecode : Report.decode (system.contents path) with
    | error error =>
      have hfails := not_decodes_of_error (P := fun _ => True) hdecode
      rw [List.filter_cons_of_pos (by simpa using hfails), List.map_cons, ← ih,
        reason_of_error hdecode]
      simp [hdecode]
    | ok file =>
      have hdecodes := (decodes_of_ok (P := fun _ => True) hdecode).2 trivial
      rw [List.filter_cons_of_neg (by simpa using hdecodes), ← ih]
      simp [hdecode]

/-- A path is complete, decoded in part, or a failure. -/
theorem count_paths (system : FileSystem) (paths : List String) :
    (paths.countP fun path => system.Decodes path fun file => file.isComplete) +
        (paths.countP fun path => system.Decodes path fun file => ¬file.isComplete) +
      (paths.countP fun path => ¬system.Decodes path fun _ => True) = paths.length := by
  induction paths with
  | nil => rfl
  | cons path paths ih =>
    simp only [List.countP_cons, List.length_cons, decide_eq_true_eq]
    cases hdecode : Report.decode (system.contents path) with
    | error error =>
      have hnot : ∀ P, ¬system.Decodes path P := fun P => not_decodes_of_error hdecode
      rw [if_neg (hnot _), if_neg (hnot _), if_pos (hnot _)]
      omega
    | ok file =>
      have hdecodes : ∀ P, system.Decodes path P ↔ P file := fun P => decodes_of_ok hdecode
      rw [if_neg (not_not_intro ((hdecodes _).2 trivial))]
      by_cases hcomplete : file.isComplete
      · rw [if_pos ((hdecodes _).2 hcomplete), if_neg (mt (hdecodes _).1 (not_not_intro hcomplete))]
        omega
      · rw [if_neg (mt (hdecodes _).1 hcomplete), if_pos ((hdecodes _).2 hcomplete)]
        omega

end FileSystem

attribute [ext] Report.Survey

/-! ## The commands -/

namespace Program

/-- The paths on which `info` fails. -/
def failing (system : FileSystem) (paths : List String) : List String :=
  paths.filter fun path => (answer system (.info path false)).code = 1

/-- What the commands say about files, and what a survey says if a pattern leads to the files at
some paths. -/
structure Agreement (system : FileSystem) (paths : List String) : Prop where
  info : ∀ path json, (answer system (.info path json)).code =
    if system.Decodes path fun _ => True then 0 else 1
  chunks : ∀ path, (answer system (.chunks path)).code =
    if system.Decodes path fun file => file.directory.isOk then 0 else 1
  refs : ∀ path, (answer system (.refs path)).code =
    if system.Decodes path fun file => file.refTable.isOk then 0 else 1
  succeeds_of_complete : ∀ path json, system.Decodes path (fun file => file.isComplete) →
    (answer system (.info path json)).code = 0 ∧ (answer system (.chunks path)).code = 0 ∧
      (answer system (.refs path)).code = 0
  /-- The categories account for the files that are no failures. -/
  categories : ((system.tally paths).map Prod.snd).sum + (failing system paths).length =
    paths.length
  /-- What the program subtracts from the number of files is no more than this number. -/
  le : (system.survey paths).complete + (system.survey paths).failures.length ≤
    (system.survey paths).files
  /-- A survey prints the counts, the categories, and a line for each path on which `info` fails. -/
  scan_text : ∀ pattern, system.files? pattern = .ok paths →
    answer system (.scan pattern false) =
      { code := 0
        stdout := Text.lines
          (["Scanned " ++ Text.decimal 1 paths.length ++ " files"] ++
            (system.tally paths).map (fun row =>
              Text.alignRight 12 row.1 ++ " " ++ Text.decimal 1 row.2) ++
            [Text.decimal 1 (paths.countP fun path =>
                system.Decodes path fun file => file.isComplete) ++ " fully decoded, " ++
              Text.decimal 1 (paths.countP fun path =>
                system.Decodes path fun file => ¬file.isComplete) ++ " partially, " ++
              Text.decimal 1 (failing system paths).length ++ " failed"])
        stderr := Text.lines ((failing system paths).map fun path =>
          "Error decoding " ++ path ++ ": " ++ system.reason path) }
  /-- In JSON it has the same counts, categories and failures. -/
  scan_json : ∀ pattern, system.files? pattern = .ok paths →
    answer system (.scan pattern true) =
      { code := 0
        stdout := Text.lines [Json.pretty (.object
          [("files", .nat paths.length),
           ("complete", .nat (paths.countP fun path =>
              system.Decodes path fun file => file.isComplete)),
           ("categories", .object ((system.tally paths).map fun row => (row.1, .nat row.2))),
           ("failures", .array ((failing system paths).map fun path =>
              .object [("path", .string path), ("error", .string (system.reason path))]))])]
        stderr := "" }

/-- `info` fails on the files that cannot be decoded. -/
theorem failing_eq (system : FileSystem) (paths : List String) :
    failing system paths = paths.filter fun path => ¬system.Decodes path fun _ => True := by
  refine List.filter_congr fun path _ => ?_
  rw [decide_eq_decide, code_info]
  by_cases hdecodes : system.Decodes path fun _ => True
  · simp [hdecodes]
  · simp [hdecodes]

theorem length_failing (system : FileSystem) (paths : List String) :
    (failing system paths).length =
      paths.countP fun path => ¬system.Decodes path fun _ => True := by
  rw [failing_eq, List.countP_eq_length_filter]

/-- All that the program counts. -/
theorem survey_eq (system : FileSystem) (paths : List String) :
    system.survey paths =
      { files := paths.length
        complete := paths.countP fun path => system.Decodes path fun file => file.isComplete
        categories := system.tally paths
        failures := (failing system paths).map fun path => (path, system.reason path) } := by
  ext1
  case files => exact List.length_map _
  case complete => exact system.complete_survey paths
  case categories => exact (system.categories_survey paths).trans (system.count_eq_tally paths)
  case failures => rw [failing_eq, system.failures_survey]

/-- What is left of the number of files is the number of files decoded in part. -/
theorem partiallyDecoded_survey (system : FileSystem) (paths : List String) :
    (system.survey paths).partiallyDecoded =
      paths.countP fun path => system.Decodes path fun file => ¬file.isComplete := by
  have hcount := system.count_paths paths
  have hfailing := length_failing system paths
  rw [survey_eq, Report.Survey.partiallyDecoded]
  dsimp only
  rw [List.length_map]
  omega

/-- A survey of the files that a pattern leads to prints what is counted. -/
theorem answer_scan {pattern : String} (h : system.files? pattern = .ok paths) (json : Bool) :
    answer system (.scan pattern json) =
      if json then .success [(system.survey paths).toJson.pretty]
      else
        { stdout := Text.lines
            (["Scanned " ++ Text.decimal 1 (system.survey paths).files ++ " files"] ++
              (system.survey paths).categories.map (fun row =>
                Text.alignRight 12 row.1 ++ " " ++ Text.decimal 1 row.2) ++
              [Text.decimal 1 (system.survey paths).complete ++ " fully decoded, " ++
                Text.decimal 1 (system.survey paths).partiallyDecoded ++ " partially, " ++
                Text.decimal 1 (system.survey paths).failures.length ++ " failed"])
          stderr := Text.lines ((system.survey paths).failures.map fun failure =>
            "Error decoding " ++ failure.1 ++ ": " ++ failure.2) } := by
  rw [answer, h]
  rfl

/-- A complete map, a map whose chunk table is empty, and a file that ends in its header.  What else
the pattern leads to is a folder. -/
def threeFiles : FileSystem where
  contents
    | "a.Gbx" => .ok
      #[0x47, 0x42, 0x58, 0x06, 0x00, 0x42, 0x55, 0x55, 0x52, 0x00, 0x30, 0x04, 0x03,
        0x00, 0x00, 0x00, 0x00, 0x01, 0x00, 0x00, 0x00, 0x00, 0x00, 0x00, 0x00]
    | "b.Gbx" => .ok
      #[0x47, 0x42, 0x58, 0x06, 0x00, 0x42, 0x55, 0x55, 0x52, 0x00, 0x30, 0x04, 0x03,
        0x04, 0x00, 0x00, 0x00, 0x00, 0x00, 0x00, 0x00,
        0x01, 0x00, 0x00, 0x00, 0x00, 0x00, 0x00, 0x00]
    | "c.Gbx" => .ok #[0x47]
    | _ => .error .notFound
  isFile path := path ≠ "d.Gbx"
  expand _ := .ok ["a.Gbx", "b.Gbx", "c.Gbx", "d.Gbx"]

end Program

end GameBox
