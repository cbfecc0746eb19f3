import ApiContract.Proofs.Audit.OwnFiles
import ApiContract.Proofs.Files.Reordered
import ApiContract.Proofs.Project.Sources
import ApiContract.Script.Reader

/-!
What is found does not depend on any order that the system is free to choose: neither that in which
a directory lists its entries, nor that in which the workers come to an end. Everything is told in
the order of the modules and of the names.
-/

set_option autoImplicit false

namespace ApiContract

open Files (Disk Entry Shape)
open Files.Disk (Reordered)
open Schema (Source)
open Script (Parser)

namespace Project

section Reordered

variable (first second : Disk) (reordered : Reordered first second)

include reordered

theorem source_in_reordered (directory name : String) :
    sourceIn? first directory name = sourceIn? second directory name := by
  have same (path : String) : first.isFile path = second.isFile path :=
    Disk.is_file_same_look first second path (Disk.look_reordered first second reordered path)
  unfold sourceIn?
  simp only [same]

theorem sources_in_reordered (sound : first.Sound) (directory : String) :
    sourcesIn first directory = sourcesIn second directory := by
  have isDirectory := Disk.is_directory_same_look first second directory
    (Disk.look_reordered first second reordered directory)
  rcases Disk.list_reordered first second reordered directory with ⟨fault, one, two⟩ |
    ⟨names, entries, listed, resolved, one, two, granted, -, -, same⟩
  · rw [sourcesIn, sourcesIn, isDirectory, one, two]
  · have soundSecond := Disk.sound_reordered first second reordered sound
    have resolvedSecond := Disk.resolve_reordered first second reordered directory ▸ resolved
    have grantedSecond : second.withholds names = none := by rw [reordered.same_rights, granted]
    have inFirst := (sources_in_ok first directory _).mpr
      ⟨names, entries, resolved, one, granted, rfl⟩
    have inSecond := (sources_in_ok second directory _).mpr
      ⟨names, listed, resolvedSecond, two, grantedSecond, rfl⟩
    rw [listed_sources first sound directory names entries
      (Disk.leads_of_resolve first directory names resolved) one] at inFirst
    rw [listed_sources second soundSecond directory names listed
      (Disk.leads_of_resolve second directory names resolvedSecond) two] at inSecond
    have found : sourceIn? second directory = sourceIn? first directory :=
      funext fun name => (source_in_reordered first second reordered directory name).symm
    rw [inFirst, inSecond, found]
    -- Sources of one name are the same: each is what is found under its name.
    refine congrArg Except.ok (sort_any_order Source.name _ _ (same.filterMap _) ?_)
    intro source member other otherMember sameName
    obtain ⟨name, -, here⟩ := List.mem_filterMap.mp member
    obtain ⟨otherName, -, there⟩ := List.mem_filterMap.mp otherMember
    have named := (source_in_some first directory name source here).1
    have otherNamed := (source_in_some first directory otherName other there).1
    rw [← named, sameName, otherNamed, there] at here
    exact (Option.some.inj here).symm

end Reordered

end Project

namespace Audit

open Emit (FileKind Settings)

def isDirectoryLook : Except Files.Fault Shape → Bool
  | .ok (.directory _) => true
  | _ => false

-- The directories below the output directory that match a pattern and belong to no module.
def orphanNames (modules : List Schema.Module) (pattern : Glob.Pattern)
    (entries : List (String × Entry)) : List String :=
  (entries.filter fun entry => entry.2.isDirectory && pattern.matches entry.1 &&
    !modules.any fun m => m.name == entry.1).map Prod.fst

structure IsOrphan (directory : String) (disk : Disk) (modules : List Schema.Module)
    (pattern : Glob.Pattern) (name : String) : Prop where
  listed : ∃ entries below, disk.list directory = .ok entries ∧ (name, .directory below) ∈ entries
  name_matches : pattern.matches name = true
  unknown : ∀ m ∈ modules, m.name ≠ name

theorem is_directory_entry (entry : Entry) :
    entry.isDirectory = true ↔ ∃ below, entry = .directory below := by
  cases entry <;> simp [Entry.isDirectory]

theorem mem_orphan_names (modules : List Schema.Module) (pattern : Glob.Pattern)
    (entries : List (String × Entry)) (name : String) :
    name ∈ orphanNames modules pattern entries ↔
      (∃ below, (name, .directory below) ∈ entries) ∧ pattern.matches name = true ∧
        ∀ m ∈ modules, m.name ≠ name := by
  simp only [orphanNames, List.mem_map, List.mem_filter, Bool.and_eq_true, Bool.not_eq_true',
    List.any_eq_false, beq_iff_eq, is_directory_entry]
  constructor
  · rintro ⟨⟨_, entry⟩, ⟨member, ⟨⟨below, rfl⟩, fits⟩, unknown⟩, rfl⟩
    exact ⟨⟨below, member⟩, fits, unknown⟩
  · rintro ⟨⟨below, member⟩, fits, unknown⟩
    exact ⟨(name, .directory below), ⟨member, ⟨⟨below, rfl⟩, fits⟩, unknown⟩, rfl⟩

theorem orphan_names_distinct (modules : List Schema.Module) (pattern : Glob.Pattern)
    (entries : List (String × Entry)) (distinct : (entries.map Prod.fst).Nodup) :
    (orphanNames modules pattern entries).Nodup :=
  distinct.sublist (List.filter_sublist.map Prod.fst)

theorem entry_is_directory (root : Entry) (names : List String) (entries : List (String × Entry))
    (distinct : (entries.map Prod.fst).Nodup) (stands : root.get names = .ok (.directory entries))
    (entry : String × Entry) (member : entry ∈ entries) :
    entry.2.isDirectory = isDirectoryLook (root.shapeAt (names ++ [entry.1])) := by
  rw [Entry.shapeAt, Entry.get_below root names entries entry.1 [] stands,
    Entry.find_distinct entry.1 entry.2 entries distinct member]
  cases entry.2 <;> rfl

theorem orphan_names_by_look (root : Entry) (names : List String)
    (entries : List (String × Entry)) (distinct : (entries.map Prod.fst).Nodup)
    (stands : root.get names = .ok (.directory entries)) (modules : List Schema.Module)
    (pattern : Glob.Pattern) :
    orphanNames modules pattern entries =
      (entries.map Prod.fst).filter fun name =>
        isDirectoryLook (root.shapeAt (names ++ [name])) && pattern.matches name &&
          !modules.any fun m => m.name == name := by
  rw [orphanNames, List.filter_map]
  refine congrArg _ (List.filter_congr fun entry member => ?_)
  rw [entry_is_directory root names entries distinct stands entry member]
  rfl

theorem is_directory_same (look other : Except Files.Fault Shape)
    (same : Files.SameLook look other) : isDirectoryLook look = isDirectoryLook other := by
  cases same <;> rfl

theorem orphans_reordered (first second : Disk) (reordered : Reordered first second)
    (sound : first.Sound) (directory : String) (modules : List Schema.Module)
    (pattern : Glob.Pattern) :
    orphans directory first modules pattern = orphans directory second modules pattern := by
  rw [orphans, orphans]
  rcases Disk.list_reordered first second reordered directory with ⟨fault, one, two⟩ |
    ⟨names, entries, listed, -, standsFirst, standsSecond, -, one, two, same⟩
  · rw [one, two]
  · have soundSecond := Disk.sound_reordered first second reordered sound
    have distinct := (sound.tidy names _ (Project.names_listed first names entries standsFirst)).1
    have distinctSecond :=
      (soundSecond.tidy names _ (Project.names_listed second names listed standsSecond)).1
    have byLook :=
      orphan_names_by_look first.root names entries distinct standsFirst modules pattern
    have byLookSecond :=
      orphan_names_by_look second.root names listed distinctSecond standsSecond modules pattern
    have alike : (orphanNames modules pattern entries).Perm
        (orphanNames modules pattern listed) := by
      have looks (name : String) := is_directory_same _ _ (reordered.same_look (names ++ [name]))
      rw [byLook, byLookSecond]
      simp only [looks]
      exact same.filter _
    rw [one, two]
    exact congrArg (fun sorted => Except.ok (sorted.map orphan))
      (sort_any_order id _ _ alike fun _ _ _ _ same => same)

theorem reads_alike_reordered (first second : Disk) (reordered : Reordered first second)
    (directory module : String) : ReadsAlike directory module first second where
  read_eq _ := Disk.read_text_reordered first second reordered _
  file_eq _ := Disk.is_file_same_look first second _ (Disk.look_reordered first second reordered _)

-- The orphans of a report, by name.
theorem orphans_sorted (directory : String) (disk : Disk) (sound : disk.Sound)
    (modules : List Schema.Module) (pattern : Glob.Pattern) (others : List Finding)
    (scanned : orphans directory disk modules pattern = .ok others) :
    ∃ names : List String, others = names.map orphan ∧ names.Pairwise (· < ·) ∧
      ∀ name, name ∈ names ↔ IsOrphan directory disk modules pattern name := by
  rw [orphans] at scanned
  cases listing : disk.list directory with
  | error fault =>
      have none (name : String) : ¬ IsOrphan directory disk modules pattern name := by
        rintro ⟨⟨entries, below, found, -⟩, -, -⟩
        rw [listing] at found
        cases found
      rw [listing] at scanned
      cases fault <;> cases scanned
      exact ⟨[], rfl, .nil, by simpa using none⟩
  | ok entries =>
      obtain ⟨path, -, stands, -⟩ := (Disk.list_iff disk directory entries).mp listing
      have distinct := (sound.tidy path _ (Project.names_listed disk path entries stands)).1
      have sorted := List.mergeSort_perm (orphanNames modules pattern entries)
        fun a b => decide (a ≤ b)
      have strict := (sorted_by_key id (orphanNames modules pattern entries)).and
        (sorted.nodup_iff.mpr (orphan_names_distinct modules pattern entries distinct))
      rw [listing] at scanned
      cases scanned
      refine ⟨_, rfl, strict.imp fun less => Std.lt_of_le_of_ne less.1 less.2, fun name => ?_⟩
      refine (sorted.mem_iff.trans (mem_orphan_names modules pattern entries name)).trans ?_
      constructor
      · rintro ⟨⟨below, member⟩, fits, unknown⟩
        exact ⟨⟨entries, below, listing, member⟩, fits, unknown⟩
      · rintro ⟨⟨found, below, again, member⟩, fits, unknown⟩
        rw [listing] at again
        cases again
        exact ⟨⟨below, member⟩, fits, unknown⟩

theorem outcome_in_any_order [Parser] (first second : Disk) (sound : first.Sound)
    (reordered : Reordered first second) (finish other : Finish) (s : Settings)
    (schemas output glob : String) (modules : List Schema.Module) :
    Project.sourcesIn first schemas = Project.sourcesIn second schemas ∧
      (auditFilesBy finish s output first modules glob).1 =
        (auditFilesBy other s output second modules glob).1 ∧
      ∀ report, (auditFilesBy finish s output first modules glob).1 = .ok report →
        ∃ (pattern : Glob.Pattern) (names : List String), Glob.Pattern.parse glob = .ok pattern ∧
          report.findings = ((selected modules pattern).flatMap fun m =>
            (auditModule s output first m).1.findings) ++ names.map orphan ∧
          names.Pairwise (· < ·) ∧
          ∀ name, name ∈ names ↔ IsOrphan output first modules pattern name := by
  have each (m : Schema.Module) : auditModule s output first m = auditModule s output second m :=
    audit_module_same s output first second m
      (reads_alike_reordered first second reordered output m.name)
  refine ⟨Project.sources_in_reordered first second reordered sound schemas, ?_, ?_⟩
  · rw [audit_files_by_eq, audit_files_by_eq]
    simp only [orphans_reordered first second reordered sound, reportOf, each]
  · intro report audited
    obtain ⟨pattern, others, parsed, scanned, rfl⟩ :=
      (audit_files_by_ok finish s output first modules glob report).mp audited
    obtain ⟨names, rfl, sorted, orphaned⟩ :=
      orphans_sorted output first sound modules pattern others scanned
    exact ⟨pattern, names, parsed, rfl, sorted, orphaned⟩

def stallSchemas : List (String × Entry) :=
  [("users-api", .directory [("models.yaml", .file "entities: []".toUTF8)]),
    ("billing-api", .directory [("models.yaml", .file "entities: []".toUTF8)])]

def stallOutput : List (String × Entry) :=
  [("users-api", .directory [("types.ts", .file "".toUTF8)]), ("old-api", .directory []),
    ("legacy-api", .directory [])]

def stall (order : List (String × Entry) → List (String × Entry)) : Disk where
  root := .directory (order
    [("schema", .directory (order stallSchemas)), ("generated", .directory (order stallOutput))])
  here := []

theorem stall_sound : (stall id).Sound := by
  have models := Files.tidy_directory [("models.yaml", .file "entities: []".toUTF8)] (by simp)
    (by simpa using ⟨by decide, Files.tidy_file _⟩)
  have types := Files.tidy_directory [("types.ts", .file "".toUTF8)] (by simp)
    (by simpa using ⟨by decide, Files.tidy_file _⟩)
  have empty := Files.tidy_directory [] List.nodup_nil (by simp)
  have schemas := Files.tidy_directory stallSchemas (by simp [stallSchemas])
    (by simpa [stallSchemas] using ⟨⟨by decide, models⟩, by decide, models⟩)
  have output := Files.tidy_directory stallOutput (by simp [stallOutput])
    (by simpa [stallOutput] using ⟨⟨by decide, types⟩, ⟨by decide, empty⟩, by decide, empty⟩)
  exact ⟨Files.tidy_directory [("schema", .directory _), ("generated", .directory _)] (by simp)
    (by simpa using ⟨⟨by decide, schemas⟩, by decide, output⟩), ["schema", "generated"], rfl⟩

theorem stall_reordered : Reordered (stall id) (stall List.reverse) where
  same_place := rfl
  same_rights := rfl
  same_look := by
    have reversed (entries : List (String × Entry)) (distinct : (entries.map Prod.fst).Nodup) :
        Files.SameTree (.directory entries) (.directory entries.reverse) :=
      Files.same_tree_listed _ _ (List.reverse_perm entries).symm distinct
    have schemas := reversed stallSchemas (by simp [stallSchemas])
    have output := reversed stallOutput (by simp [stallOutput])
    have below := Files.same_tree_below
      [("schema", .directory stallSchemas), ("generated", .directory stallOutput)]
      [("schema", .directory stallSchemas.reverse), ("generated", .directory stallOutput.reverse)]
      (.cons ⟨rfl, schemas⟩ (.cons ⟨rfl, output⟩ .nil))
    exact Files.same_tree_trans _ _ _ below (reversed _ (by simp))

theorem stall_audited_in_any_order :
    (stall id).Sound ∧
      Reordered (stall id) (stall List.reverse) ∧
      Project.sourcesIn (stall id) "schema" =
        Project.sourcesIn (stall List.reverse) "schema" ∧
      ∃ report,
        (auditFilesBy .inTurn ⟨TypeMap.standard, true⟩ "generated" (stall id)
          [⟨"users-api", [], none, []⟩, ⟨"billing-api", [], none, []⟩] "*-api").1 = .ok report ∧
        (auditFilesBy ⟨List.reverse, List.reverse_perm⟩ ⟨TypeMap.standard, true⟩ "generated"
          (stall List.reverse)
          [⟨"users-api", [], none, []⟩, ⟨"billing-api", [], none, []⟩] "*-api").1 = .ok report := by
  obtain ⟨sources, same, -⟩ := outcome_in_any_order _ _ stall_sound stall_reordered .inTurn
    ⟨List.reverse, List.reverse_perm⟩ ⟨TypeMap.standard, true⟩ "schema" "generated" "*-api"
    [⟨"users-api", [], none, []⟩, ⟨"billing-api", [], none, []⟩]
  obtain ⟨report, audited⟩ := ok_of_is_ok (auditFilesBy .inTurn ⟨TypeMap.standard, true⟩ "generated"
    (stall id) [⟨"users-api", [], none, []⟩, ⟨"billing-api", [], none, []⟩] "*-api").1
    (by decide +kernel)
  exact ⟨stall_sound, stall_reordered, sources, report, audited, same ▸ audited⟩

end Audit

end ApiContract
