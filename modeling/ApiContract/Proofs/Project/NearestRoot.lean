import ApiContract.Proofs.Files.Landing
import ApiContract.Proofs.Project.Stable

/-!
The root of a project: the search goes up from a start, ends at the root of the tree at the latest
and comes to the nearest directory that has options. The project has these options, or fails as
they do; without any it stays where it started.
-/

set_option autoImplicit false

namespace ApiContract.Project

open Files (Disk Entry IsName Shape)

-- Options are a file: a directory of the same name is passed by.
def HasOptions (disk : Disk) (place : List String) : Prop :=
  ∃ content, disk.root.get (place ++ [optionsFile]) = .ok (.file content)

-- The innermost of the directories around a start, itself included, that have options.
structure Nearest (disk : Disk) (start place : List String) : Prop where
  around : place <+: start
  has_options : HasOptions disk place
  innermost : ∀ other, other <+: start → HasOptions disk other → other <+: place

-- The search as a walk over paths, with the number of directories that are looked into.
inductive Climbs (disk : Disk) : String → Nat → Option String → Prop
  | found (directory : String) (isFile : disk.isFile (joinPath directory optionsFile) = true) :
      Climbs disk directory 1 (some directory)
  | ended (directory : String) (absent : disk.isFile (joinPath directory optionsFile) = false)
      (top : Files.parent? directory = none) : Climbs disk directory 1 none
  | onward (directory parent : String) (looks : Nat) (root : Option String)
      (absent : disk.isFile (joinPath directory optionsFile) = false)
      (up : Files.parent? directory = some parent) (later : Climbs disk parent looks root) :
      Climbs disk directory (looks + 1) root

-- What a search from a start may come to.
inductive Ends (disk : Disk) (start : List String) : Option String → Prop
  | found (place : List String) (nearest : Nearest disk start place) :
      Ends disk start (some (Disk.absolute place))
  | nowhere (without : ∀ place, place <+: start → ¬ HasOptions disk place) : Ends disk start none

section Steps

variable (disk : Disk) (names : List String) (name : String)

theorem nearest_here (has : HasOptions disk names) : Nearest disk names names :=
  ⟨List.prefix_rfl, has, fun _ around _ => around⟩

theorem nearest_unique (first second : List String) (one : Nearest disk names first)
    (other : Nearest disk names second) : first = second := by
  have outer := other.innermost first one.around one.has_options
  have inner := one.innermost second other.around other.has_options
  exact outer.eq_of_length_le inner.length_le

variable (absent : ¬ HasOptions disk (names ++ [name]))

include absent

theorem options_above (place : List String) (around : place <+: names ++ [name])
    (has : HasOptions disk place) : place <+: names := by
  rcases List.prefix_concat_iff.mp around with rfl | above
  · exact absurd has absent
  · exact above

-- One step up from a directory without options leaves out nothing that the search may come to.
theorem nearest_above (place : List String) (nearest : Nearest disk names place) :
    Nearest disk (names ++ [name]) place where
  around := nearest.around.trans (List.prefix_append _ _)
  has_options := nearest.has_options
  innermost other around has :=
    nearest.innermost other (options_above disk names name absent other around has) has

theorem ends_above (root : Option String) (ends : Ends disk names root) :
    Ends disk (names ++ [name]) root := by
  cases ends with
  | found place nearest => exact .found place (nearest_above disk names name absent place nearest)
  | nowhere without =>
      refine .nowhere fun place around has => ?_
      exact without place (options_above disk names name absent place around has) has

end Steps

theorem options_file_is_name : IsName optionsFile :=
  own_file_is_name optionsFile (by decide)

section Place

variable (disk : Disk) (place : List String) (shape : Shape)
  (named : ∀ name ∈ place, IsName name) (stands : disk.root.shapeAt place = .ok shape)

include named stands

theorem get_options :
    disk.get (joinPath (Disk.absolute place) optionsFile) =
      disk.root.get (place ++ [optionsFile]) :=
  Disk.get_in_absolute disk place shape optionsFile
    (List.forall_mem_append.mpr ⟨named, by simpa using options_file_is_name⟩) stands

theorem is_file_iff_has_options :
    disk.isFile (joinPath (Disk.absolute place) optionsFile) = true ↔ HasOptions disk place := by
  rw [Disk.isFile, get_options disk place shape named stands, HasOptions]
  cases disk.root.get (place ++ [optionsFile]) with
  | error fault => simp
  | ok found => cases found <;> simp [Entry.isFile]

theorem no_file_iff_without_options :
    disk.isFile (joinPath (Disk.absolute place) optionsFile) = false ↔ ¬ HasOptions disk place := by
  rw [← is_file_iff_has_options disk place shape named stands, Bool.not_eq_true]

end Place

theorem nearest_root_climbs (disk : Disk) (back : List String)
    (named : ∀ name ∈ back, IsName name) :
    ∃ looks, looks ≤ back.length + 1 ∧
      Climbs disk (Disk.absolute back.reverse) looks (nearestRoot disk back) := by
  induction back with
  | nil =>
      rw [nearestRoot]
      cases isFile : disk.isFile (joinPath "/" optionsFile) with
      | true => exact ⟨1, Nat.le_refl 1, .found "/" isFile⟩
      | false => exact ⟨1, Nat.le_refl 1, .ended "/" isFile Disk.parent_top⟩
  | cons name rest ih =>
      obtain ⟨looks, bounded, climbs⟩ := ih (List.forall_mem_cons.mp named).2
      have up := Disk.parent_absolute rest.reverse name
        fun other member => named other (by simpa [or_comm] using member)
      rw [← List.reverse_cons] at up
      rw [nearestRoot]
      cases isFile : disk.isFile (joinPath (Disk.absolute (name :: rest).reverse) optionsFile) with
      | true => exact ⟨1, Nat.le_add_left 1 _, .found _ isFile⟩
      | false => exact ⟨looks + 1, Nat.succ_le_succ bounded, .onward _ _ looks _ isFile up climbs⟩

theorem climbs_ends (disk : Disk) (start : List String) (shape : Shape)
    (named : ∀ name ∈ start, IsName name) (stands : disk.root.shapeAt start = .ok shape)
    (looks : Nat) (root : Option String) (climbs : Climbs disk (Disk.absolute start) looks root) :
    Ends disk start root := by
  generalize path : Disk.absolute start = directory at climbs
  induction climbs generalizing start shape with
  | found directory isFile =>
      subst path
      have has := (is_file_iff_has_options disk start shape named stands).mp isFile
      exact .found start (nearest_here disk start has)
  | ended directory absent top =>
      subst path
      have without := (no_file_iff_without_options disk start shape named stands).mp absent
      rcases List.eq_nil_or_concat' start with rfl | ⟨outer, name, rfl⟩
      · refine .nowhere fun place around => ?_
        rwa [List.prefix_nil.mp around]
      · rw [Disk.parent_absolute outer name named] at top
        cases top
  | onward directory parent looks root absent up later ih =>
      subst path
      have without := (no_file_iff_without_options disk start shape named stands).mp absent
      rcases List.eq_nil_or_concat' start with rfl | ⟨outer, name, rfl⟩
      · rw [Disk.parent_top] at up
        cases up
      · rw [Disk.parent_absolute outer name named, Option.some.injEq] at up
        obtain ⟨listed, directory, -⟩ := Entry.shape_at_parent disk.root outer name [] shape stands
        have outerNamed := (List.forall_mem_append.mp named).1
        exact ends_above disk outer name without root (ih outer _ outerNamed directory up)

section Ended

variable (disk : Disk) (start : List String) (root : Option String) (ends : Ends disk start root)

include ends

theorem ends_some_iff (path : String) :
    root = some path ↔ ∃ place, Nearest disk start place ∧ path = Disk.absolute place := by
  cases ends with
  | found place nearest =>
      constructor
      · intro same
        exact ⟨place, nearest, (Option.some.inj same).symm⟩
      · rintro ⟨other, also, rfl⟩
        rw [nearest_unique disk start place other nearest also]
  | nowhere without =>
      refine ⟨nofun, ?_⟩
      rintro ⟨place, nearest, -⟩
      exact absurd nearest.has_options (without place nearest.around)

theorem ends_none_iff :
    root = none ↔ ∀ place, place <+: start → ¬ HasOptions disk place := by
  cases ends with
  | found place nearest =>
      refine ⟨nofun, fun without => ?_⟩
      exact absurd nearest.has_options (without place nearest.around)
  | nowhere without => exact ⟨fun _ => without, fun _ => rfl⟩

end Ended

section Found

variable (disk : Disk) (start place : List String) (named : ∀ name ∈ start, IsName name)
  (nearest : Nearest disk start place)

include named nearest

theorem nearest_named : ∀ name ∈ place, IsName name :=
  fun name member => named name (nearest.around.subset member)

omit named in
theorem nearest_directory :
    ∃ listed, disk.root.shapeAt place = .ok (.directory listed) := by
  obtain ⟨content, file⟩ := nearest.has_options
  obtain ⟨listed, directory, -⟩ := Entry.shape_at_parent disk.root place optionsFile [] _
    ((Entry.shape_at_file disk.root _ content).mpr file)
  exact ⟨listed, directory⟩

theorem nearest_resolved : disk.resolve (Disk.absolute place) = .ok place := by
  obtain ⟨listed, directory⟩ := nearest_directory disk start place nearest
  exact Disk.resolve_absolute disk place listed (nearest_named disk start place named nearest)
    directory

theorem nearest_options :
    disk.resolve (joinPath (Disk.absolute place) optionsFile) = .ok (place ++ [optionsFile]) := by
  obtain ⟨content, file⟩ := nearest.has_options
  obtain ⟨listed, directory⟩ := nearest_directory disk start place nearest
  have inner := nearest_named disk start place named nearest
  have isName := options_file_is_name
  have below := Files.below_name optionsFile isName
  refine (Disk.resolve_join disk _ _ below _).mpr ((Disk.leads_join disk _ _ below _).mpr ?_)
  refine (Disk.walk_append_ok _ _ _ _ _).mpr
    ⟨place.reverse, Disk.leads_absolute disk place _ inner directory, ?_⟩
  rw [← List.reverse_reverse place] at directory
  rw [Files.segments_name optionsFile isName]
  refine (Disk.walk_names disk.root _ _ _ _ directory (by simpa using isName)).mpr ⟨by simp, ?_⟩
  rw [List.reverse_reverse]
  exact ⟨_, (Entry.shape_at_file disk.root _ content).mpr file⟩

end Found

theorem find_root_climbs (disk : Disk) (start : String) (names : List String)
    (named : ∀ name ∈ names, IsName name) (resolved : disk.resolve start = .ok names) :
    ∃ root looks, findRoot disk start = .ok root ∧
      Climbs disk (Disk.absolute names) looks root ∧ looks ≤ names.length + 1 := by
  obtain ⟨looks, bounded, climbs⟩ :=
    nearest_root_climbs disk names.reverse (by simpa using named)
  rw [List.reverse_reverse] at climbs
  refine ⟨_, looks, ?_, climbs, by simpa using bounded⟩
  rw [findRoot, resolved]
  rfl

-- What a file of options comes to; it may be withheld.
def Options.ofFile (path : String) (withheld : Option Files.Fault) (content : ByteArray) :
    Except LoadFault Options :=
  match withheld with
  | some fault => .error (.file fault)
  | none =>
      match String.fromUTF8? content with
      | none => .error (.file .notText)
      | some text => (Options.ofYaml text).mapError (.options path)

section Loaded

variable (disk : Disk) (directory : String) (place : List String) (content : ByteArray)
  (resolved : disk.resolve (joinPath directory optionsFile) = .ok place)
  (file : disk.root.get place = .ok (.file content))

include resolved file

theorem load_of_file :
    Options.load disk directory =
      (Options.ofFile (joinPath directory optionsFile) (disk.withholds place) content).map some := by
  have present : disk.isPresent (joinPath directory optionsFile) = true := by
    rw [Disk.isPresent, Disk.get, resolved]
    simp only [file]
  simp only [Options.load, present, if_true, Disk.readText, resolved, file]
  cases disk.withholds place with
  | some fault => rfl
  | none =>
      cases decoded : String.fromUTF8? content with
      | none => simp only [Options.ofFile, decoded, Except.map]
      | some text =>
          simp only [Options.ofFile, decoded]
          cases Options.ofYaml text <;> rfl

theorem discover_of_file (start : String)
    (found : findRoot disk start = .ok (some directory)) :
    discover disk start =
      (Options.ofFile (joinPath directory optionsFile) (disk.withholds place) content).map
        (ApiContract.Project.mk directory) := by
  rw [discover, found]
  simp only [load_of_file disk directory place content resolved file]
  cases Options.ofFile (joinPath directory optionsFile) (disk.withholds place) content <;> rfl

end Loaded

-- The start may be a directory or not; in the tree it stands at `names`.
theorem nearest_root_discovered (disk : Disk) (located : ∀ name ∈ disk.here, IsName name)
    (start : String) (present : disk.isPresent start = true) :
    ∃ names, disk.resolve start = .ok names ∧
      (∃ root looks, findRoot disk start = .ok root ∧
        Climbs disk (Disk.absolute names) looks root ∧ looks ≤ names.length + 1) ∧
      (∀ root, findRoot disk start = .ok (some root) ↔
        ∃ place, Nearest disk names place ∧ root = Disk.absolute place ∧
          disk.resolve root = .ok place) ∧
      (findRoot disk start = .ok none ↔ ∀ place, place <+: names → ¬ HasOptions disk place) ∧
      (∀ place content, Nearest disk names place →
        disk.root.get (place ++ [optionsFile]) = .ok (.file content) →
          discover disk start =
            (Options.ofFile (joinPath (Disk.absolute place) optionsFile)
              (disk.withholds (place ++ [optionsFile])) content).map
              (ApiContract.Project.mk (Disk.absolute place))) ∧
      ((∀ place, place <+: names → ¬ HasOptions disk place) →
        discover disk start = .ok ⟨start, {}⟩) := by
  obtain ⟨resolved, shape, stands⟩ := (Disk.is_present_iff disk start).mp present
  generalize disk.landing start = names at resolved stands
  have named := Disk.resolve_named disk located start names resolved
  obtain ⟨root, looks, search, climbs, bounded⟩ := find_root_climbs disk start names named resolved
  have ends := climbs_ends disk names shape named stands looks root climbs
  have found := ends_some_iff disk names root ends
  have nowhere := ends_none_iff disk names root ends
  refine ⟨names, resolved, ⟨root, looks, search, climbs, bounded⟩, ?_, ?_, ?_, ?_⟩
  · intro path
    rw [search, Except.ok.injEq, found]
    refine exists_congr fun place => and_congr_right fun nearest => (and_iff_left_of_imp ?_).symm
    rintro rfl
    exact nearest_resolved disk names place named nearest
  · rw [search, Except.ok.injEq, nowhere]
  · intro place content nearest file
    have root_found := (found _).mpr ⟨place, nearest, rfl⟩
    exact discover_of_file disk _ _ content (nearest_options disk names place named nearest) file
      start (by rw [search, root_found])
  · intro without
    rw [discover, search, nowhere.mpr without]

-- A directory of the name of the options stands nearer than the file.
def work : Disk where
  root := .directory [("work", .directory [
    (optionsFile, .file "header: false\n".toUTF8),
    ("shop", .directory [(optionsFile, .directory []), ("src", .directory [])])])]
  here := ["work"]

theorem work_is_nearest : Nearest work ["work", "shop", "src"] ["work"] := by
  have own : Nearest work ["work"] ["work"] := nearest_here work ["work"] ⟨_, rfl⟩
  have shop := nearest_above work ["work"] "shop" (fun ⟨_, file⟩ => nomatch file) _ own
  exact nearest_above work ["work", "shop"] "src" (fun ⟨_, file⟩ => nomatch file) _ shop

deriving instance DecidableEq for Options

theorem options_of_work (path : String) :
    Options.ofFile path none "header: false\n".toUTF8 = .ok { header := false } := by
  have parsed : Options.ofYaml "header: false\n" = .ok { header := false } :=
    (to_option_some_iff _ _).mp (by decide +kernel)
  rw [Options.ofFile, Disk.decode_encoded]
  dsimp only
  rw [parsed]
  rfl

theorem options_above_found :
    (∀ name ∈ work.here, IsName name) ∧ work.isPresent "shop/src" = true ∧
      findRoot work "shop/src" = .ok (some "/work") ∧
      discover work "shop/src" = .ok ⟨"/work", { header := false }⟩ := by
  have located : ∀ name ∈ work.here, IsName name := by decide
  have present : work.isPresent "shop/src" = true := rfl
  have leads : work.resolve "shop/src" = .ok ["work", "shop", "src"] := rfl
  obtain ⟨names, resolved, -, found, -, reads, -⟩ :=
    nearest_root_discovered work located "shop/src" present
  cases resolved.symm.trans leads
  refine ⟨located, present, (found "/work").mpr ⟨_, work_is_nearest, rfl, rfl⟩, ?_⟩
  rw [reads _ _ work_is_nearest rfl]
  exact congrArg (Except.map _) (options_of_work _)

end ApiContract.Project
