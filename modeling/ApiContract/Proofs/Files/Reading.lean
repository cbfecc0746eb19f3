import ApiContract.Proofs.Files.Walk

/-!
Reading a disk that has grown: a path still leads where it led, and a file whose name is never
written is read as before.
-/

set_option autoImplicit false

namespace ApiContract.Files.Disk

structure Sound (disk : Disk) : Prop where
  tidy : Tidy disk.root
  inside : ∃ listed, disk.root.shapeAt disk.here = .ok (.directory listed)

structure Grew (written : List String → Prop) (before after : Disk) : Prop where
  same_place : after.here = before.here
  rights_kept : ∀ place, after.withholds place = before.withholds place ∨
    written place ∧ after.withholds place = none
  grown : Grown written before.root after.root
  tidy : Tidy before.root → Tidy after.root

theorem grew_refl (written : List String → Prop) (disk : Disk) : Grew written disk disk :=
  ⟨rfl, fun _ => .inl rfl, grown_refl written disk.root, id⟩

theorem grew_trans (written : List String → Prop) (first second third : Disk)
    (early : Grew written first second) (late : Grew written second third) :
    Grew written first third where
  same_place := late.same_place.trans early.same_place
  rights_kept place := by
    rcases late.rights_kept place with same | granted
    · rw [same]
      exact early.rights_kept place
    · exact .inr granted
  grown := grown_trans written _ _ _ early.grown late.grown
  tidy tidy := late.tidy (early.tidy tidy)

theorem grew_mono (written allowed : List String → Prop) (before after : Disk)
    (covers : ∀ path, written path → allowed path) (grew : Grew written before after) :
    Grew allowed before after :=
  ⟨grew.same_place, fun place => (grew.rights_kept place).imp_right (And.imp_left (covers place)),
    grown_mono written allowed _ _ covers grew.grown, grew.tidy⟩

theorem sound_grew (written : List String → Prop) (before after : Disk)
    (grew : Grew written before after) (sound : before.Sound) : after.Sound := by
  obtain ⟨listed, stands⟩ := sound.inside
  obtain ⟨added, still⟩ := grew.grown.directories_stay _ listed stands
  exact ⟨grew.tidy sound.tidy, _, by rw [grew.same_place, still]⟩

def AbsentOrDirectory (disk : Disk) (path : String) : Prop :=
  disk.get path = .error .notFound ∨ disk.isDirectory path = true

theorem resolve_ok_iff (disk : Disk) (path : String) (names : List String) :
    disk.resolve path = .ok names ↔
      path.isEmpty = false ∧
        walk disk.root (disk.origin path) (parts path) = .ok names.reverse := by
  rw [resolve]
  cases path.isEmpty with
  | true => simp
  | false =>
      cases walk disk.root (disk.origin path) (parts path) with
      | error fault => simp [Except.map]
      | ok back => simp [Except.map, List.reverse_eq_iff]

-- Where the names of a path lead, whether or not its text also asks for a directory there.
def Leads (disk : Disk) (path : String) (names : List String) : Prop :=
  walk disk.root (disk.origin path) (segments path) = .ok names.reverse

theorem leads_of_resolve (disk : Disk) (path : String) (names : List String)
    (resolved : disk.resolve path = .ok names) : disk.Leads path names := by
  have walked := ((resolve_ok_iff disk path names).mp resolved).2
  rw [parts_eq] at walked
  split at walked
  · obtain ⟨middle, first, last⟩ := (walk_append_ok _ _ _ _ _).mp walked
    obtain ⟨listed, -, continues⟩ := (walk_cons_ok _ _ _ _ _).mp last
    rcases continues with ⟨-, done⟩ | ⟨impossible, -⟩ | ⟨impossible, -⟩
    · cases done
      exact first
    · exact absurd impossible (by decide)
    · exact absurd rfl impossible
  · exact walked

theorem resolve_of_leads (disk : Disk) (path : String) (names listed : List String)
    (nonempty : path.isEmpty = false) (leads : disk.Leads path names)
    (stands : disk.root.shapeAt names = .ok (.directory listed)) :
    disk.resolve path = .ok names := by
  refine (resolve_ok_iff disk path names).mpr ⟨nonempty, ?_⟩
  rw [parts_eq]
  split
  · refine (walk_append_ok _ _ _ _ _).mpr ⟨names.reverse, leads, ?_⟩
    refine (walk_cons_ok _ _ _ _ _).mpr ⟨listed, ?_, .inl ⟨rfl, rfl⟩⟩
    rw [List.reverse_reverse, stands]
  · exact leads

theorem leads_join (disk : Disk) (directory path : String) (below : Below path)
    (names : List String) :
    disk.Leads (joinPath directory path) names ↔
      walk disk.root (disk.origin directory) (segments directory ++ segments path) =
        .ok names.reverse := by
  rw [Leads, origin, is_absolute_join directory path below,
    segments_join directory path below.relative]
  rfl

theorem resolve_join (disk : Disk) (directory path : String) (below : Below path)
    (names : List String) :
    disk.resolve (joinPath directory path) = .ok names ↔
      disk.Leads (joinPath directory path) names := by
  rw [leads_join disk directory path below, resolve_ok_iff, origin,
    is_absolute_join directory path below, parts_join directory path below,
    join_path_nonempty directory path below]
  exact and_iff_right rfl

theorem origin_stands (disk : Disk) (sound : disk.Sound) (path : String) :
    ∃ shape, disk.root.shapeAt (disk.origin path).reverse = .ok shape := by
  rw [origin]
  split
  · exact ⟨disk.root.shape, rfl⟩
  · obtain ⟨listed, stands⟩ := sound.inside
    exact ⟨_, by rw [List.reverse_reverse, stands]⟩

theorem leads_stands (disk : Disk) (sound : disk.Sound) (path : String) (names : List String)
    (leads : disk.Leads path names) : ∃ shape, disk.root.shapeAt names = .ok shape := by
  obtain ⟨start, stands⟩ := origin_stands disk sound path
  obtain ⟨shape, reached⟩ := walk_stands disk.root _ _ _ start stands leads
  rw [List.reverse_reverse] at reached
  exact ⟨shape, reached⟩

theorem walk_onward (disk : Disk) (sound : disk.Sound) (directory : String)
    (names onward target : List String) (leads : disk.Leads directory names)
    (named : ∀ name ∈ onward, IsName name) :
    walk disk.root (disk.origin directory) (segments directory ++ onward) = .ok target.reverse ↔
      target = names ++ onward ∧ ∃ shape, disk.root.shapeAt target = .ok shape := by
  obtain ⟨shape, stands⟩ := leads_stands disk sound directory names leads
  rw [← List.reverse_reverse names] at stands
  have below := walk_names disk.root onward names.reverse target.reverse shape stands named
  rw [walk_append, show walk disk.root _ (segments directory) = _ from leads]
  simp only [below, List.reverse_reverse]
  constructor
  · rintro ⟨same, found⟩
    have same : target = names ++ onward := by
      rw [← List.reverse_inj, same, List.reverse_append]
    exact ⟨same, same ▸ found⟩
  · rintro ⟨rfl, found⟩
    exact ⟨List.reverse_append, found⟩

-- No part of a named path below a directory leads back out of it.
theorem leads_join_inside (disk : Disk) (sound : disk.Sound) (directory path : String)
    (below : Below path) (named : ∀ name ∈ segments path, IsName name) (target : List String)
    (leads : disk.Leads (joinPath directory path) target) :
    ∃ names, disk.Leads directory names ∧ target = names ++ segments path := by
  rw [leads_join disk directory path below] at leads
  obtain ⟨middle, outer, -⟩ := (walk_append_ok _ _ _ _ _).mp leads
  have outer : disk.Leads directory middle.reverse := by
    rw [Leads, List.reverse_reverse, outer]
  exact ⟨middle.reverse, outer, ((walk_onward disk sound directory _ _ target outer named).mp leads).1⟩

theorem get_join (disk : Disk) (directory path : String) (below : Below path)
    (named : ∀ name ∈ segments path, IsName name) (names : List String) (entry : Entry)
    (leads : disk.Leads directory names) (stands : disk.root.get names = .ok entry) :
    disk.get (joinPath directory path) = entry.get (segments path) := by
  have start : walk disk.root (disk.origin directory) (segments directory) = .ok names.reverse :=
    leads
  have onward := walk_entry disk.root entry (segments path) names.reverse
    (by rw [List.reverse_reverse, stands]) named
  have resolved : disk.resolve (joinPath directory path) =
      (entry.get (segments path)).map fun _ => names ++ segments path := by
    rw [resolve, join_path_nonempty directory path below, parts_join directory path below, origin,
      is_absolute_join directory path below, ← origin, walk_append, start]
    simp only [onward]
    cases entry.get (segments path) with
    | error fault => rfl
    | ok found => simp [Except.map]
  rw [get, resolved, ← Entry.get_from disk.root entry names _ stands]
  cases found : disk.root.get (names ++ segments path) with
  | error fault => rfl
  | ok entry => exact found

theorem is_file_iff (disk : Disk) (path : String) :
    disk.isFile path = true ↔
      ∃ names content, disk.resolve path = .ok names ∧
        disk.root.shapeAt names = .ok (.file content) := by
  rw [isFile, get]
  cases disk.resolve path with
  | error fault => simp
  | ok names =>
      simp only [Entry.shape_at_file, Except.ok.injEq, exists_and_left, exists_eq_left']
      cases disk.root.get names with
      | error fault => simp
      | ok entry => cases entry <;> simp [Entry.isFile]

theorem is_directory_iff (disk : Disk) (path : String) :
    disk.isDirectory path = true ↔
      ∃ names listed, disk.resolve path = .ok names ∧
        disk.root.shapeAt names = .ok (.directory listed) := by
  rw [isDirectory, get]
  cases disk.resolve path with
  | error fault => simp
  | ok names =>
      simp only [Entry.shape_at_directory, Except.ok.injEq, exists_and_left, exists_eq_left']
      cases disk.root.get names with
      | error fault => simp
      | ok entry => cases entry <;> simp [Entry.isDirectory]

theorem read_text_iff (disk : Disk) (path text : String) :
    disk.readText path = .ok text ↔
      ∃ names content, disk.resolve path = .ok names ∧
        disk.root.shapeAt names = .ok (.file content) ∧ disk.withholds names = none ∧
        String.fromUTF8? content = some text := by
  rw [readText]
  cases disk.resolve path with
  | error fault => simp
  | ok names =>
      simp only [Entry.shape_at_file, Except.ok.injEq, exists_and_left, exists_eq_left']
      cases disk.root.get names with
      | error fault => simp
      | ok entry =>
          cases disk.withholds names with
          | some fault => simp
          | none =>
              cases entry with
              | directory entries => simp
              | file content =>
                  simp only [Except.ok.injEq, Entry.file.injEq, exists_eq_left', true_and]
                  cases String.fromUTF8? content <;> simp

-- Where nothing is withheld, what is read follows from what stands there.
theorem read_text_open (disk : Disk) (isOpen : ∀ place, disk.withholds place = none)
    (path : String) :
    disk.readText path =
      match disk.get path with
      | .error fault => .error fault
      | .ok (.directory _) => .error .isDirectory
      | .ok (.file content) =>
          match String.fromUTF8? content with
          | some text => .ok text
          | none => .error .notText := by
  rw [readText, get]
  cases disk.resolve path with
  | error fault => rfl
  | ok names =>
      simp only [isOpen]
      rcases disk.root.get names with fault | content | entries <;> rfl

theorem list_iff (disk : Disk) (path : String) (entries : List (String × Entry)) :
    disk.list path = .ok entries ↔
      ∃ names, disk.resolve path = .ok names ∧
        disk.root.get names = .ok (.directory entries) ∧ disk.withholds names = none := by
  rw [list]
  cases disk.resolve path with
  | error fault => simp
  | ok names =>
      simp only [Except.ok.injEq, exists_eq_left']
      cases disk.root.get names with
      | error fault => simp
      | ok entry => cases entry <;> cases disk.withholds names <;> simp

theorem list_unseen (disk : Disk) (path : String) (fault : Fault)
    (unseen : disk.get path = .error fault) : disk.list path = .error fault := by
  rw [get] at unseen
  rw [list]
  cases resolved : disk.resolve path with
  | error found =>
      rw [resolved] at unseen
      exact congrArg Except.error (Except.error.inj unseen)
  | ok names =>
      rw [resolved] at unseen
      simp only [unseen]

-- A path that joins a directory and a name is seen in what the directory leads to, and so is one
-- that goes on through a second name.
theorem file_join_iff (disk : Disk) (sound : disk.Sound) (directory name : String)
    (isName : IsName name) (names : List String) (leads : disk.Leads directory names) :
    disk.isFile (joinPath directory name) = true ↔
      ∃ content, disk.root.shapeAt (names ++ [name]) = .ok (.file content) := by
  have below := below_name name isName
  have named : ∀ other ∈ [name], IsName other := by simpa using isName
  simp only [is_file_iff, resolve_join disk directory name below,
    leads_join disk directory name below, segments_name name isName,
    walk_onward disk sound directory names [name] _ leads named]
  exact ⟨fun ⟨_, content, ⟨same, _⟩, stands⟩ => ⟨content, same ▸ stands⟩,
    fun ⟨content, stands⟩ => ⟨_, content, ⟨rfl, _, stands⟩, stands⟩⟩

theorem file_join_join_iff (disk : Disk) (sound : disk.Sound) (directory first second : String)
    (isFirst : IsName first) (isSecond : IsName second) (names : List String)
    (leads : disk.Leads directory names) :
    disk.isFile (joinPath (joinPath directory first) second) = true ↔
      ∃ content, disk.root.shapeAt (names ++ [first, second]) = .ok (.file content) := by
  have below := below_name first isFirst
  have inner := below_name second isSecond
  have named : ∀ name ∈ [first, second], IsName name := by simpa using ⟨isFirst, isSecond⟩
  have origins : disk.origin (joinPath directory first) = disk.origin directory := by
    rw [origin, is_absolute_join directory first below, origin]
  simp only [is_file_iff, resolve_join disk _ second inner, leads_join disk _ second inner,
    segments_join directory first below.relative, segments_name _ isFirst,
    segments_name _ isSecond, origins, List.append_assoc, List.singleton_append,
    walk_onward disk sound directory names [first, second] _ leads named]
  exact ⟨fun ⟨_, content, ⟨same, _⟩, stands⟩ => ⟨content, same ▸ stands⟩,
    fun ⟨content, stands⟩ => ⟨_, content, ⟨rfl, _, stands⟩, stands⟩⟩

section Stable

variable (written : List String → Prop) (before after : Disk) (grew : Grew written before after)

include grew

theorem origin_grew (path : String) : after.origin path = before.origin path := by
  rw [origin, origin, grew.same_place]

theorem resolve_grew (path : String) (names : List String)
    (resolved : before.resolve path = .ok names) : after.resolve path = .ok names := by
  obtain ⟨nonempty, walked⟩ := (resolve_ok_iff before path names).mp resolved
  refine (resolve_ok_iff after path names).mpr ⟨nonempty, ?_⟩
  rw [origin_grew written before after grew]
  exact walk_grown written before.root after.root grew.grown _ _ _ walked

theorem leads_grew (path : String) (names : List String) (leads : before.Leads path names) :
    after.Leads path names := by
  rw [Leads, origin_grew written before after grew]
  exact walk_grown written before.root after.root grew.grown _ _ _ leads

theorem granted_grew (place : List String) (granted : before.withholds place = none) :
    after.withholds place = none := by
  rcases grew.rights_kept place with same | ⟨-, later⟩
  · rw [same, granted]
  · exact later

theorem read_text_grew (path text : String)
    (untouched : ∀ target, before.resolve path = .ok target → ¬ written target)
    (reads : before.readText path = .ok text) : after.readText path = .ok text := by
  obtain ⟨target, content, resolved, stands, granted, decoded⟩ :=
    (read_text_iff before _ text).mp reads
  exact (read_text_iff after _ text).mpr ⟨_, content,
    resolve_grew written before after grew _ _ resolved,
    grew.grown.files_stay _ content (untouched target resolved) stands,
    granted_grew written before after grew _ granted, decoded⟩

variable (sound : before.Sound) (name : String) (isName : IsName name)
  (unwritten : ∀ names, ¬ written (names ++ [name]))

include unwritten

theorem file_grew (names : List String) :
    (∃ content, after.root.shapeAt (names ++ [name]) = .ok (.file content)) ↔
      ∃ content, before.root.shapeAt (names ++ [name]) = .ok (.file content) :=
  ⟨fun ⟨content, stands⟩ => ⟨content, grew.grown.files_were _ content (unwritten names) stands⟩,
    fun ⟨content, stands⟩ => ⟨content, grew.grown.files_stay _ content (unwritten names) stands⟩⟩

include sound isName

theorem read_named_grew (directory text : String)
    (reads : before.readText (joinPath directory name) = .ok text) :
    after.readText (joinPath directory name) = .ok text := by
  have below := below_name name isName
  refine read_text_grew written before after grew _ text (fun target resolved => ?_) reads
  obtain ⟨names, -, rfl⟩ := leads_join_inside before sound directory name below
    (by simpa [segments_name name isName] using isName) target
    ((resolve_join before directory name below target).mp resolved)
  rw [segments_name name isName]
  exact unwritten names

theorem is_file_grew (directory : String) (names : List String)
    (leads : before.Leads directory names) :
    after.isFile (joinPath directory name) = before.isFile (joinPath directory name) := by
  have soundAfter := sound_grew written before after grew sound
  have leadsAfter := leads_grew written before after grew directory names leads
  rw [Bool.eq_iff_iff, file_join_iff before sound directory name isName names leads,
    file_join_iff after soundAfter directory name isName names leadsAfter]
  exact file_grew written before after grew name unwritten names

theorem is_file_below_grew (directory first : String) (isFirst : IsName first)
    (names : List String) (leads : before.Leads directory names) :
    after.isFile (joinPath (joinPath directory first) name) =
      before.isFile (joinPath (joinPath directory first) name) := by
  have soundAfter := sound_grew written before after grew sound
  have leadsAfter := leads_grew written before after grew directory names leads
  rw [Bool.eq_iff_iff, file_join_join_iff before sound directory first name isFirst isName names leads,
    file_join_join_iff after soundAfter directory first name isFirst isName names leadsAfter,
    List.append_cons names first [name]]
  exact file_grew written before after grew name unwritten (names ++ [first])

end Stable

end ApiContract.Files.Disk
