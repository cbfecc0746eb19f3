import ApiContract.Proofs.Audit.OwnFiles
import ApiContract.Proofs.Files.Reordered
import ApiContract.Script.Reader

/-!
Two audits that share a module and the files below its directory tell the same of that module,
whatever else they are given.
-/

set_option autoImplicit false

namespace ApiContract

namespace Glob

def Selects (glob name : String) : Prop :=
  ∃ pattern, Pattern.parse glob = .ok pattern ∧ pattern.matches name = true

end Glob

namespace Audit

open Emit (FileKind Settings)
open Files (Below Disk Entry IsName SameLook segments)
open Script (Parser)

-- Every path below the directory of a name shows and reads the same on both disks, if only the same
-- refusal. Nothing is said of any other path, nor of the directory itself.
def AgreeBelow (directory name : String) (first second : Disk) : Prop :=
  ∀ path, Below path → (∀ part ∈ segments path, IsName part) →
    let inside := joinPath directory (joinPath name path)
    SameLook (first.look inside) (second.look inside) ∧
      first.readText inside = second.readText inside

theorem reads_alike_below (directory module : String) (first second : Disk)
    (agree : AgreeBelow directory module first second) :
    ReadsAlike directory module first second := by
  have inside (kind : FileKind) := by
    have isName := Emit.file_name_is_name kind
    refine agree kind.fileName (Files.below_name _ isName) ?_
    rw [Files.segments_name _ isName]
    simpa using isName
  exact ⟨fun kind => (inside kind).2,
    fun kind => Disk.is_file_same_look first second _ (inside kind).1⟩

-- Two output directories that have the same under a name agree below it, if nothing is withheld.
theorem agree_below_found (directory name : String) (isName : IsName name) (first second : Disk)
    (names others : List String) (entries listed : List (String × Entry))
    (leads : first.Leads directory names) (stands : first.root.get names = .ok (.directory entries))
    (leadsSecond : second.Leads directory others)
    (standsSecond : second.root.get others = .ok (.directory listed))
    (same : Entry.find name entries = Entry.find name listed)
    (isOpen : ∀ place, first.withholds place = none ∧ second.withholds place = none) :
    AgreeBelow directory name first second := by
  intro path below named
  have relative := below.relative
  have inner := Files.below_join name path (Files.below_name name isName) below
  have parts : segments (joinPath name path) = name :: segments path := by
    rw [Files.segments_join name path relative, Files.segments_name name isName]
    rfl
  have all : ∀ part ∈ segments (joinPath name path), IsName part := by
    rw [parts]
    exact List.forall_mem_cons.mpr ⟨isName, named⟩
  have looks : SameLook (first.look (joinPath directory (joinPath name path)))
      (second.look (joinPath directory (joinPath name path))) := by
    rw [Disk.look, Disk.look,
      Disk.get_join first directory _ inner all names _ leads stands,
      Disk.get_join second directory _ inner all others _ leadsSecond standsSecond, parts,
      Entry.get, Entry.get, same]
    exact Files.same_look_refl _
  exact ⟨looks, Disk.read_text_same_look first second _ looks (fun place => (isOpen place).1)
    (fun place => (isOpen place).2)⟩

theorem audited_in_isolation [Parser] (s : Settings) (directory : String) (m : Schema.Module)
    (first second : Disk) (agree : AgreeBelow directory m.name first second)
    (modules others : List Schema.Module) (member : m ∈ modules) (memberOthers : m ∈ others)
    (distinct : (modules.map Schema.Module.name).Nodup)
    (distinctOthers : (others.map Schema.Module.name).Nodup)
    (glob other : String) (selects : Glob.Selects glob m.name)
    (selectsOther : Glob.Selects other m.name) (finish later : Finish) (report again : Report)
    (audited : (auditFilesBy finish s directory first modules glob).1 = .ok report)
    (auditedAgain : (auditFilesBy later s directory second others other).1 = .ok again) :
    report.findingsOf m.name = again.findingsOf m.name ∧
      report.failuresOf m.name = again.failuresOf m.name := by
  obtain ⟨pattern, orphaned, parsed, scanned, rfl⟩ :=
    (audit_files_by_ok finish s directory first modules glob report).mp audited
  obtain ⟨patternAgain, orphanedAgain, parsedAgain, scannedAgain, rfl⟩ :=
    (audit_files_by_ok later s directory second others other again).mp auditedAgain
  obtain ⟨selected, chosen⟩ : pattern.matches m.name = true ∧
      patternAgain.matches m.name = true := by
    obtain ⟨own, parsedOwn, fits⟩ := selects
    obtain ⟨ownAgain, parsedOwnAgain, fitsAgain⟩ := selectsOther
    rw [parsed, Except.ok.injEq] at parsedOwn
    rw [parsedAgain, Except.ok.injEq] at parsedOwnAgain
    exact ⟨parsedOwn ▸ fits, parsedOwnAgain ▸ fitsAgain⟩
  obtain ⟨findings, failures⟩ :=
    report_of_module s directory first modules distinct pattern orphaned scanned m member selected
  obtain ⟨findingsAgain, failuresAgain⟩ := report_of_module s directory second others
    distinctOthers patternAgain orphanedAgain scannedAgain m memberOthers chosen
  have same := audit_module_same s directory first second m
    (reads_alike_below directory m.name first second agree)
  rw [findings, failures, findingsAgain, failuresAgain, same]
  exact ⟨rfl, rfl⟩

def users : Schema.Module :=
  ⟨"users-api", [⟨"User", none, [⟨"name", "string", true, false, false, none, none⟩], []⟩], none,
    []⟩

-- One field has a type that no file can be made of.
def broken : Schema.Module :=
  ⟨"billing-api", [⟨"Bill", none, [⟨"total", "money", true, false, false, none, none⟩], []⟩], none,
    []⟩

def drifted : Entry :=
  .directory [("types.ts", .file "export type User = string;".toUTF8)]

def quietDisk : Disk where
  root := .directory [("generated", .directory [("users-api", drifted)])]
  here := []

def busyDisk : Disk where
  root := .directory [("generated", .directory
    [("billing-api", .file .empty), ("legacy-api", .directory []), ("users-api", drifted)])]
  here := []

theorem users_audited_in_isolation :
    AgreeBelow "generated" users.name quietDisk busyDisk ∧
      ∃ report again,
        (auditFilesBy .inTurn ⟨TypeMap.standard, true⟩ "generated" quietDisk [users] "users-*").1 =
          .ok report ∧
        (auditFilesBy .inTurn ⟨TypeMap.standard, true⟩ "generated" busyDisk [broken, users]
          "*-api").1 = .ok again ∧
        report.findingsOf users.name = again.findingsOf users.name ∧
        report.failuresOf users.name = again.failuresOf users.name := by
  have agree : AgreeBelow "generated" users.name quietDisk busyDisk :=
    agree_below_found "generated" users.name (by decide) quietDisk busyDisk ["generated"]
      ["generated"] _ _ rfl rfl rfl rfl rfl fun _ => ⟨rfl, rfl⟩
  obtain ⟨report, audited⟩ := ok_of_is_ok (auditFilesBy .inTurn ⟨TypeMap.standard, true⟩ "generated"
    quietDisk [users] "users-*").1 (by decide +kernel)
  obtain ⟨again, auditedAgain⟩ := ok_of_is_ok (auditFilesBy .inTurn ⟨TypeMap.standard, true⟩
    "generated" busyDisk [broken, users] "*-api").1 (by decide +kernel)
  exact ⟨agree, report, again, audited, auditedAgain,
    audited_in_isolation ⟨TypeMap.standard, true⟩ "generated" users quietDisk busyDisk agree
      [users] [broken, users] (by simp) (by simp) (by decide) (by decide) "users-*" "*-api"
      ⟨_, rfl, by decide +kernel⟩ ⟨_, rfl, by decide +kernel⟩ .inTurn .inTurn report again
      audited auditedAgain⟩

end Audit

end ApiContract
