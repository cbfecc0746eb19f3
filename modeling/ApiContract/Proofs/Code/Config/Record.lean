import ApiContract.Code.Fragment
import ApiContract.Proofs.Schema.Named
import Mathlib.Data.List.Forall2

/-!
Records that tell their fields in the order of their form and leave some out are read as the values
told, with the defaults of the others; their kind is one that is known.
-/

set_option autoImplicit false

namespace ApiContract.Code.Config

open Record (Fault)

-- A value of a shape is read as this piece, and has no kind that is refused.
structure Tells (shape : Shape) (value : Json) (piece : Piece) : Prop where
  reads : read shape value = .ok piece
  checks : ∀ path, checkKinds path value = .ok ()

-- Fields and what a record holds of them: told by a value, or left out as they are by default. The
-- last list has what is told under each name.
inductive Told : List Field → List Piece → List (String × Json) → List (String × Piece) → Prop
  | nil : Told [] [] [] []
  | told {field : Field} {fields : List Field} {piece : Piece} {pieces : List Piece} {value : Json}
      {values : List (String × Json)} {given : List (String × Piece)}
      (tells : Tells field.shape value piece) (rest : Told fields pieces values given) :
      Told (field :: fields) (piece :: pieces) ((field.name, value) :: values)
        ((field.name, piece) :: given)
  | leftOut {field : Field} {fields : List Field} {piece : Piece} {pieces : List Piece}
      {values : List (String × Json)} {given : List (String × Piece)}
      (default : field.absent.piece? = some piece) (rest : Told fields pieces values given) :
      Told (field :: fields) (piece :: pieces) values given

variable {fields : List Field} {pieces : List Piece} {values : List (String × Json)}
  {given : List (String × Piece)}

theorem fields_read (form : Form) (hasKind : Bool) (all : Told fields pieces values given)
    (known : ∀ field ∈ fields, fieldNamed? form field.name = some field ∧ field.name ≠ "kind") :
    readFields form hasKind values = .ok given := by
  induction all with
  | nil => rfl
  | @told field fields piece pieces value values given tells rest ih =>
      obtain ⟨⟨named, noKind⟩, later⟩ := List.forall_mem_cons.mp known
      have plain : (hasKind && field.name == "kind") = false := by simp [noKind]
      rw [readFields, plain, named]
      simp only [Bool.false_eq_true, if_false, tells.reads, ih later, Except.map]
  | leftOut default rest ih => exact ih (List.forall_mem_cons.mp known).2

theorem fields_checked (all : Told fields pieces values given) (path : String) :
    checkFields path values = .ok () := by
  induction all with
  | nil => rfl
  | told tells rest ih => rw [checkFields, tells.checks, ih]
  | leftOut default rest ih => exact ih

theorem given_named (all : Told fields pieces values given) :
    ∀ entry ∈ given, entry.1 ∈ fields.map Field.name := by
  induction all with
  | nil => simp
  | told tells rest ih =>
      exact List.forall_mem_cons.mpr
        ⟨List.mem_cons_self, fun entry member => List.mem_cons_of_mem _ (ih entry member)⟩
  | leftOut default rest ih => exact fun entry member => List.mem_cons_of_mem _ (ih entry member)

-- The induction is on the fields that are still to be arranged; of all that is given, `whole`, it
-- matters only what is found for these.
theorem fields_arranged (all : Told fields pieces values given)
    (distinct : (fields.map Field.name).Nodup) (whole : List (String × Piece))
    (same : ∀ field ∈ fields, (whole.find? fun entry => entry.1 == field.name) =
      given.find? fun entry => entry.1 == field.name) :
    arrange whole fields = .ok pieces := by
  induction all with
  | nil => rfl
  | @told field fields piece pieces value values given tells rest ih =>
      obtain ⟨own, later⟩ := List.forall_mem_cons.mp same
      obtain ⟨fresh, distinctLater⟩ := List.nodup_cons.mp distinct
      have found : (whole.find? fun entry => entry.1 == field.name) = some (field.name, piece) := by
        rw [own, List.find?_cons_of_pos (by simp)]
      have others : arrange whole fields = .ok pieces := by
        refine ih distinctLater fun other member => (later other member).trans ?_
        refine List.find?_cons_of_neg ?_
        simpa using fun same : field.name = other.name =>
          fresh (same ▸ List.mem_map_of_mem member)
      rw [arrange, found]
      simp only [others, Except.map]
  | @leftOut field fields piece pieces values given default rest ih =>
      obtain ⟨own, later⟩ := List.forall_mem_cons.mp same
      obtain ⟨fresh, distinctLater⟩ := List.nodup_cons.mp distinct
      have missing : (whole.find? fun entry => entry.1 == field.name) = none := by
        rw [own, List.find?_eq_none]
        intro entry member
        simpa using fun same : entry.1 = field.name => fresh (same ▸ given_named rest entry member)
      rw [arrange, missing, default]
      simp only [ih distinctLater later, Except.map]

theorem kind_not_told (all : Told fields pieces values given)
    (noKind : "kind" ∉ fields.map Field.name) : Json.field? "kind" values = none := by
  induction all with
  | nil => rfl
  | told tells rest ih =>
      obtain ⟨own, later⟩ := List.ne_and_not_mem_of_not_mem_cons noKind
      rw [Json.field?, if_neg (Ne.symm own), ih later]
  | leftOut default rest ih => exact ih (List.ne_and_not_mem_of_not_mem_cons noKind).2

theorem form_names (form : Form) :
    (form.fields.map Field.name).Nodup ∧ "kind" ∉ form.fields.map Field.name := by
  cases form <;> decide

theorem settle_record (shape : Shape) (piece : Piece) :
    shape.settle (.object values) (.ok piece) = .ok piece := by
  cases shape <;> rfl

theorem family_kinds_distinct (family : Family) : (family.kinds.map Prod.fst).Nodup := by
  cases family <;> decide

theorem kinds_distinct : (kinds.map Prod.fst).Nodup := by decide

theorem form_of_kind (family : Family) (kind : String) (form : Form)
    (listed : (kind, form) ∈ family.kinds) : formAt family (.text kind) = .ok form := by
  have found := (Schema.find_named_some Prod.fst family.kinds (family_kinds_distinct family) kind
    (kind, form)).mpr ⟨listed, rfl⟩
  rw [formAt, found]

theorem family_of_kind (family : Family) (kind : String) (form : Form)
    (listed : (kind, form) ∈ family.kinds) : familyOf kind = some family := by
  have inAll : family ∈ Family.all := by cases family <;> decide
  have member : (kind, family) ∈ kinds :=
    List.mem_flatMap.mpr ⟨family, inAll, List.mem_map_of_mem listed⟩
  have found := (Schema.find_named_some Prod.fst kinds kinds_distinct kind (kind, family)).mpr
    ⟨member, rfl⟩
  rw [familyOf, found, Option.map_some]

theorem record_read (form : Form) (all : Told form.fields pieces values given) (piece : Piece)
    (built : form.build pieces = some piece) (hasKind : Bool) :
    form.finish ((readFields form hasKind values).bind fun given => arrange given form.fields) =
      .ok piece := by
  obtain ⟨distinct, noKind⟩ := form_names form
  have known : ∀ field ∈ form.fields,
      fieldNamed? form field.name = some field ∧ field.name ≠ "kind" := fun field member =>
    ⟨(Schema.find_named_some Field.name form.fields distinct field.name field).mpr ⟨member, rfl⟩,
      fun same => noKind (same ▸ List.mem_map_of_mem member)⟩
  have arranged := fields_arranged all distinct given fun _ _ => rfl
  rw [fields_read form hasKind all known, Except.bind, arranged]
  simp only [Form.finish, built]

def Written (fields : List Field) (pieces : List Piece) (values : List (String × Json)) : Prop :=
  ∃ given, Told fields pieces values given

section Records

variable (form : Form) (written : Written form.fields pieces values) (piece : Piece)
  (built : form.build pieces = some piece)

include written built

theorem plain_record_tells (shape : Shape) (keyed : shape.present.keyed? = some (.plain form)) :
    Tells shape (.object values) piece where
  reads := by
    obtain ⟨given, all⟩ := written
    rw [read, keyed]
    simp only [record_read form all piece built, settle_record]
  checks path := by
    obtain ⟨given, all⟩ := written
    rw [checkKinds, kind_not_told all (form_names form).2]
    exact fields_checked all path

theorem kind_record_tells (family : Family) (kind : String)
    (listed : (kind, form) ∈ family.kinds) (shape : Shape)
    (keyed : shape.present.keyed? = some (.byKind family)) :
    Tells shape (kindJson kind values) piece where
  reads := by
    obtain ⟨given, all⟩ := written
    have own : Json.field? "kind" (("kind", .text kind) :: values) = some (.text kind) := by
      rw [Json.field?, if_pos rfl]
    have skipped : readFields form true (("kind", .text kind) :: values) =
        readFields form true values := by
      rw [readFields, if_pos (by decide)]
    rw [kindJson, read, keyed]
    simp only [own, Option.map_some, form_of_kind family kind form listed, skipped,
      record_read form all piece built, settle_record]
  checks path := by
    obtain ⟨given, all⟩ := written
    have own : Json.field? "kind" (("kind", .text kind) :: values) = some (.text kind) := by
      rw [Json.field?, if_pos rfl]
    have known : (familyOf kind).isSome = true := by
      rw [family_of_kind family kind form listed]
      rfl
    rw [kindJson, checkKinds, own]
    simp only [known, if_true]
    rw [checkFields, show checkKinds _ (.text kind) = .ok () from rfl]
    exact fields_checked all path

end Records

section Written

theorem written_nil : Written [] [] [] := ⟨[], .nil⟩

theorem written_told {field : Field} {piece : Piece} {value : Json}
    (tells : Tells field.shape value piece) (rest : Written fields pieces values) :
    Written (field :: fields) (piece :: pieces) ((field.name, value) :: values) := by
  obtain ⟨given, told⟩ := rest
  exact ⟨_, .told tells told⟩

theorem written_left_out {field : Field} {piece : Piece}
    (default : field.absent.piece? = some piece) (rest : Written fields pieces values) :
    Written (field :: fields) (piece :: pieces) values := by
  obtain ⟨given, told⟩ := rest
  exact ⟨_, .leftOut default told⟩

theorem written_as {others : List (String × Json)} (same : values = others)
    (written : Written fields pieces values) : Written fields pieces others :=
  same ▸ written

theorem written_flag (name : String) (value : Bool) (rest : Written fields pieces values) :
    Written (⟨name, .flag, .no⟩ :: fields) (.flag value :: pieces)
      (Json.flag name value ++ values) := by
  cases value with
  | false => exact written_left_out rfl rest
  | true => exact written_told ⟨rfl, fun _ => rfl⟩ rest

variable {α : Type}

def optionalPiece (wrap : α → Piece) (value : Option α) : Piece :=
  (value.map wrap).getD .nothing

theorem written_optional (name : String) (shape : Shape) (json : α → Json) (wrap : α → Piece)
    (value : Option α) (tells : ∀ a, value = some a → Tells (.optional shape) (json a) (wrap a))
    (rest : Written fields pieces values) :
    Written (⟨name, .optional shape, .nothing⟩ :: fields) (optionalPiece wrap value :: pieces)
      (Json.optional name (value.map json) ++ values) := by
  cases value with
  | none => exact written_left_out rfl rest
  | some a => exact written_told (tells a rfl) rest

theorem written_last_flag (name : String) (value : Bool) :
    Written [⟨name, .flag, .no⟩] [.flag value] (Json.flag name value) := by
  simpa using written_flag name value written_nil

theorem written_last_optional (name : String) (shape : Shape) (json : α → Json) (wrap : α → Piece)
    (value : Option α) (tells : ∀ a, value = some a → Tells (.optional shape) (json a) (wrap a)) :
    Written [⟨name, .optional shape, .nothing⟩] [optionalPiece wrap value]
      (Json.optional name (value.map json)) := by
  simpa using written_optional name shape json wrap value tells written_nil

end Written

section Items

variable (item : Shape)

theorem items_read (values : List Json) (pieces : List Piece)
    (each : List.Forall₂ (Tells item) values pieces) : readItems item values = .ok pieces := by
  induction each with
  | nil => rfl
  | cons tells rest ih => rw [readItems, tells.reads]; simp only [ih, Except.map]

theorem items_checked (values : List Json) (pieces : List Piece)
    (each : List.Forall₂ (Tells item) values pieces) (path : String) (index : Nat) :
    checkItems path index values = .ok () := by
  induction each generalizing index with
  | nil => rfl
  | cons tells rest ih => rw [checkItems, tells.checks, ih]

theorem list_tells {values : List Json} {pieces : List Piece}
    (each : List.Forall₂ (Tells item) values pieces) :
    Tells (.list item) (.array values) (.list pieces) where
  reads := by
    rw [read, show (Shape.list item).present = .list item from rfl]
    simp only [items_read item values pieces each]
    rfl
  checks path := by
    rw [checkKinds]
    exact items_checked item values pieces each path 0

end Items

-- What may be left out is told as it would be where it may not.
theorem optional_tells (shape : Shape) (plain : shape.present = shape) (value : Json)
    (piece : Piece) (some_ : value ≠ .null) (tells : Tells shape value piece) :
    Tells (.optional shape) value piece where
  reads := by
    have present : (Shape.optional shape).present = shape.present := plain.symm
    have same : read (.optional shape) value = read shape value := by
      cases value with
      | null => exact absurd rfl some_
      | _ => simp only [read, present, Bool.and_false, Bool.false_eq_true, if_false]
    rw [same, tells.reads]
  checks := tells.checks

end ApiContract.Code.Config
