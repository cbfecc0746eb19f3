import ApiContract.Proofs.Files.Writing

/-!
The place that the text of a path names, whatever stands there: where a path leads to something, it
leads to that place, and no change of the tree moves it.
-/

set_option autoImplicit false

namespace ApiContract.Files.Disk

-- The names from the root, innermost first.
def landingFrom (back : List String) : List String → List String
  | [] => back
  | part :: rest =>
      if part = "." then landingFrom back rest
      else if part = ".." then landingFrom back.tail rest
      else landingFrom (part :: back) rest

def landing (disk : Disk) (path : String) : List String :=
  (landingFrom (disk.origin path) (parts path)).reverse

theorem landing_from_append (back first others : List String) :
    landingFrom back (first ++ others) = landingFrom (landingFrom back first) others := by
  induction first generalizing back with
  | nil => rfl
  | cons part rest ih =>
      simp only [List.cons_append, landingFrom]
      split
      · exact ih back
      · split
        · exact ih back.tail
        · exact ih (part :: back)

theorem landing_from_names (back names : List String) (named : ∀ name ∈ names, IsName name) :
    landingFrom back names = names.reverse ++ back := by
  induction names generalizing back with
  | nil => rfl
  | cons name rest ih =>
      obtain ⟨isName, later⟩ := List.forall_mem_cons.mp named
      rw [landingFrom, if_neg isName.not_here, if_neg isName.not_up, ih _ later]
      simp

theorem walk_landing (root : Entry) (back parts out : List String)
    (succeeds : walk root back parts = .ok out) : out = landingFrom back parts := by
  induction parts generalizing back with
  | nil => exact (Except.ok.inj succeeds).symm
  | cons part rest ih =>
      obtain ⟨listed, -, continues⟩ := (walk_cons_ok root back part rest out).mp succeeds
      rw [landingFrom]
      rcases continues with ⟨here, later⟩ | ⟨up, later⟩ | ⟨notHere, notUp, -, later⟩
      · rw [if_pos here, ih back later]
      · rw [if_neg (by rw [up]; decide), if_pos up, ih back.tail later]
      · rw [if_neg notHere, if_neg notUp, ih (part :: back) later]

theorem resolve_landing (disk : Disk) (path : String) (names : List String)
    (resolved : disk.resolve path = .ok names) : names = disk.landing path := by
  have walked := ((resolve_ok_iff disk path names).mp resolved).2
  rw [landing, ← walk_landing _ _ _ _ walked, List.reverse_reverse]

theorem landing_from_named (back parts : List String) (around : ∀ name ∈ back, IsName name)
    (uncut : ∀ part ∈ parts, part ≠ "" ∧ '/' ∉ part.toList) :
    ∀ name ∈ landingFrom back parts, IsName name := by
  induction parts generalizing back with
  | nil => exact around
  | cons part rest ih =>
      obtain ⟨⟨nonempty, noSlash⟩, later⟩ := List.forall_mem_cons.mp uncut
      rw [landingFrom]
      split
      · exact ih back around later
      · rename_i notHere
        split
        · exact ih back.tail (fun name member => around name (List.mem_of_mem_tail member)) later
        · rename_i notUp
          have isName : IsName part := ⟨nonempty, noSlash, notHere, notUp⟩
          exact ih (part :: back) (List.forall_mem_cons.mpr ⟨isName, around⟩) later

theorem resolve_named (disk : Disk) (located : ∀ name ∈ disk.here, IsName name) (path : String)
    (names : List String) (resolved : disk.resolve path = .ok names) :
    ∀ name ∈ names, IsName name := by
  have around : ∀ name ∈ disk.origin path, IsName name := by
    rw [origin]
    split
    · exact List.forall_mem_nil _
    · simpa using located
  have named := landing_from_named _ (parts path) around (parts_uncut path)
  rw [resolve_landing disk path names resolved, landing]
  simpa using named

theorem landing_grew (written : List String → Prop) (before after : Disk)
    (grew : Grew written before after) (path : String) :
    after.landing path = before.landing path := by
  rw [landing, landing, origin_grew written before after grew]

-- What is put below a directory by names lands below the place of the directory.
theorem landing_join (disk : Disk) (directory path : String) (below : Below path)
    (named : ∀ name ∈ segments path, IsName name) :
    disk.landing (joinPath directory path) =
      (landingFrom (disk.origin directory) (segments directory)).reverse ++ segments path := by
  rw [landing, parts_join directory path below, landing_from_append, landing_from_names _ _ named,
    List.reverse_append, List.reverse_reverse, origin, is_absolute_join directory path below]
  rfl

theorem decode_iff (content : ByteArray) (text : String) :
    String.fromUTF8? content = some text ↔ content = text.toUTF8 := by
  constructor
  · intro decoded
    rw [String.fromUTF8?] at decoded
    split at decoded
    · cases decoded
      rfl
    · cases decoded
  · rintro rfl
    exact decode_encoded text

-- The file at the place of a path, whether or not the path leads there.
def Stands (disk : Disk) (path text : String) : Prop :=
  disk.root.shapeAt (disk.landing path) = .ok (.file text.toUTF8)

instance (disk : Disk) (path text : String) : Decidable (disk.Stands path text) :=
  decidable_of_iff
    ((match disk.root.get (disk.landing path) with
      | .ok (.file content) => decide (content.data = text.toUTF8.data)
      | _ => false) = true) <| by
    rw [Stands, Entry.shape_at_file]
    split
    · rename_i found
      simp [found, ByteArray.ext_iff]
    · rename_i other
      simpa using fun found => other _ found

theorem is_present_iff (disk : Disk) (path : String) :
    disk.isPresent path = true ↔
      disk.resolve path = .ok (disk.landing path) ∧
        ∃ shape, disk.root.shapeAt (disk.landing path) = .ok shape := by
  rw [isPresent, get, Entry.shapeAt]
  cases resolved : disk.resolve path with
  | error fault => simp
  | ok names =>
      rw [← resolve_landing disk path names resolved]
      cases found : disk.root.get names with
      | error fault => simp [found, Except.map]
      | ok entry => simp [found, Except.map]

theorem reads_iff_stands (disk : Disk) (path text : String) :
    disk.readText path = .ok text ↔
      disk.Stands path text ∧ disk.isPresent path = true ∧
        disk.withholds (disk.landing path) = none := by
  rw [read_text_iff, is_present_iff, Stands]
  constructor
  · rintro ⟨names, content, resolved, stands, granted, decoded⟩
    obtain rfl := resolve_landing disk path names resolved
    rw [(decode_iff content text).mp decoded] at stands
    exact ⟨stands, ⟨resolved, _, stands⟩, granted⟩
  · rintro ⟨stands, ⟨resolved, -⟩, granted⟩
    exact ⟨_, _, resolved, stands, granted, decode_encoded text⟩

theorem present_grew (written : List String → Prop) (before after : Disk)
    (grew : Grew written before after) (path : String)
    (untouched : ¬ written (before.landing path)) (present : before.isPresent path = true) :
    after.isPresent path = true := by
  obtain ⟨resolved, shape, stands⟩ := (is_present_iff before path).mp present
  rw [is_present_iff, landing_grew written before after grew]
  refine ⟨resolve_grew written before after grew path _ resolved, ?_⟩
  cases shape with
  | file content => exact ⟨_, grew.grown.files_stay _ content untouched stands⟩
  | directory listed =>
      obtain ⟨added, still⟩ := grew.grown.directories_stay _ listed stands
      exact ⟨_, still⟩

theorem stands_grew_iff (written : List String → Prop) (before after : Disk)
    (grew : Grew written before after) (path text : String)
    (untouched : ¬ written (before.landing path)) :
    after.Stands path text ↔ before.Stands path text := by
  rw [Stands, Stands, landing_grew written before after grew]
  exact ⟨grew.grown.files_were _ _ untouched, grew.grown.files_stay _ _ untouched⟩

theorem landing_extends (back parts : List String) (plain : ".." ∉ parts) :
    ∃ more, (landingFrom back parts).reverse = back.reverse ++ more := by
  induction parts generalizing back with
  | nil => exact ⟨[], by simp [landingFrom]⟩
  | cons part rest ih =>
      obtain ⟨notUp, later⟩ := List.ne_and_not_mem_of_not_mem_cons plain
      rw [landingFrom, if_neg (Ne.symm notUp)]
      split
      · exact ih back later
      · obtain ⟨more, extends_⟩ := ih (part :: back) later
        exact ⟨part :: more, by rw [extends_, List.reverse_cons, List.append_assoc]; rfl⟩

theorem directory_around (root : Entry) (names more listed : List String)
    (stands : root.shapeAt (names ++ more) = .ok (.directory listed)) :
    ∃ listed, root.shapeAt names = .ok (.directory listed) := by
  cases more with
  | nil => exact ⟨listed, by rwa [List.append_nil] at stands⟩
  | cons name rest =>
      obtain ⟨around, directory, -⟩ := Entry.shape_at_parent root names name rest _ stands
      exact ⟨around, directory⟩

-- Without a way up nothing but what the place stands in is passed, so all of it is there.
theorem walk_plain (root : Entry) (back parts listed : List String) (plain : ".." ∉ parts)
    (stands : root.shapeAt (landingFrom back parts).reverse = .ok (.directory listed)) :
    walk root back parts = .ok (landingFrom back parts) := by
  induction parts generalizing back with
  | nil => rfl
  | cons part rest ih =>
      obtain ⟨notUp, later⟩ := List.ne_and_not_mem_of_not_mem_cons plain
      rw [landingFrom, if_neg (Ne.symm notUp)] at stands ⊢
      by_cases here : part = "."
      · rw [if_pos here] at stands ⊢
        obtain ⟨more, extends_⟩ := landing_extends back rest later
        obtain ⟨around, directory⟩ := directory_around root _ more listed (extends_ ▸ stands)
        exact (walk_cons_ok root back part rest _).mpr
          ⟨around, directory, .inl ⟨here, ih back later stands⟩⟩
      · rw [if_neg here] at stands ⊢
        obtain ⟨more, extends_⟩ := landing_extends (part :: back) rest later
        have below : root.shapeAt (back.reverse ++ part :: more) = .ok (.directory listed) := by
          rw [← stands, extends_, List.reverse_cons, List.append_assoc]
          rfl
        obtain ⟨around, directory, member⟩ := Entry.shape_at_parent root _ part more _ below
        exact (walk_cons_ok root back part rest _).mpr ⟨around, directory,
          .inr (.inr ⟨here, Ne.symm notUp, member, ih (part :: back) later stands⟩)⟩

theorem present_of_plain (disk : Disk) (directory path : String) (below : Below path)
    (named : ∀ name ∈ segments path, IsName name) (nonempty : segments path ≠ [])
    (plain : ".." ∉ segments directory) (shape : Shape)
    (stands : disk.root.shapeAt (disk.landing (joinPath directory path)) = .ok shape) :
    disk.isPresent (joinPath directory path) = true := by
  have landed := landing_join disk directory path below named
  refine (is_present_iff disk _).mpr ⟨?_, shape, stands⟩
  rw [landed] at stands ⊢
  obtain ⟨name, rest, first⟩ := List.exists_cons_of_ne_nil nonempty
  obtain ⟨listed, around, -⟩ :=
    Entry.shape_at_parent disk.root _ name rest shape (first ▸ stands)
  have walked := walk_plain disk.root _ _ listed plain around
  refine (resolve_join disk directory path below _).mpr
    ((leads_join disk directory path below _).mpr ?_)
  refine (walk_append_ok _ _ _ _ _).mpr ⟨_, walked, ?_⟩
  refine (walk_names disk.root _ _ _ _ around named).mpr ⟨by simp, shape, stands⟩

end ApiContract.Files.Disk
