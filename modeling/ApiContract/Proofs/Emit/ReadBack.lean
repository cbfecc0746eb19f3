import ApiContract.Proofs.Emit.ClientItems
import ApiContract.Proofs.Emit.Imports
import ApiContract.Proofs.Emit.TypesItems
import ApiContract.Proofs.Script.ReadPrograms

/-!
The files of a plain module are read back without errors, as what the module says, by every parser
that follows the grammar on them.
-/

set_option autoImplicit false

namespace ApiContract.Emit

open Code (Decl IsPlainName StandsFor)
open Schema (Accepted Module)
open Script (FollowsGrammar Parser isLineEnd)

theorem sha_no_line_end (message : ByteArray) :
    ∀ c ∈ (Digest.sha256 message).toList, isLineEnd c = false := by
  have digits : ∀ n < 16, isLineEnd (Digest.hexDigit n) = false := by decide
  intro c member
  rw [Digest.sha256, String.toList_ofList] at member
  obtain ⟨word, -, inWord⟩ := List.mem_flatMap.mp member
  obtain ⟨i, -, rfl⟩ := List.mem_map.mp inWord
  exact digits _ (Nat.mod_lt _ (by decide))

theorem hyphen_no_line_end (name : String) (named : Name.isHyphenName name = true) :
    ∀ c ∈ name.toList, isLineEnd c = false := by
  obtain ⟨-, -, -, -, parts⟩ := Name.hyphen_parts name named
  intro c member
  rcases parts c member with part | rfl
  · exact Name.part_all (isLineEnd · = false) (by decide) c part
  · rfl

-- No line of the header ends before its end.
theorem header_whole (s : Settings) (m : Module) (name : ∀ c ∈ m.name.toList, isLineEnd c = false) :
    ∀ line ∈ header s m, ∀ c ∈ line.toList, isLineEnd c = false := by
  have fixed : ∀ text ∈ ["GENERATED FROM: ", " schema", "SCHEMA HASH: ", "sha256:",
      "DO NOT EDIT: regenerate with \x60sdkforge generate\x60"],
      text.toList.any isLineEnd = false := by
    decide
  have digest := sha_no_line_end m.toJson.compact.toUTF8
  rw [header]
  split
  · simp only [List.forall_mem_cons, List.any_eq_false, Bool.not_eq_true] at fixed
    obtain ⟨source, schema, hash, mark, last, -⟩ := fixed
    simp only [provenance, Digest.ofText, List.forall_mem_cons, String.toList_append,
      List.forall_mem_append]
    exact ⟨⟨⟨source, name⟩, schema⟩, ⟨hash, mark, digest⟩, last, by simp⟩
  · simp

theorem header_lines (s : Settings) (m : Module) (named : Name.isHyphenName m.name = true) :
    ∀ line ∈ header s m, ∀ c ∈ line.toList, isLineEnd c = false :=
  header_whole s m (hyphen_no_line_end m.name named)

theorem imported_type_name (m : Module) (accepted : Accepted m) (plain : PlainModule m) :
    ∀ name ∈ importedTypes m, IsPlainName name := by
  intro name imported
  rw [← imported_names_eq, mem_imported_names] at imported
  obtain ⟨op, member, ⟨-, rfl⟩ | ⟨response, answers, entity⟩⟩ := imported
  · exact request_type m plain op member
  · have sound := ((Schema.accepted_iff m).mp accepted).operations_sound op member
    exact defined_type m plain name (sound.response_defined response name answers entity)

theorem import_stands (names : List String) (nonempty : names ≠ [])
    (named : ∀ name ∈ names, IsPlainName name) :
    StandsFor (.import_ names "./types" true) [] := by
  obtain ⟨first, others, rfl⟩ := List.exists_cons_of_ne_nil nonempty
  have path : Code.IsPlainText "./types" := by decide
  refine fun lead gap => ⟨Code.importItems lead (first :: others) "./types",
    by simp [Code.importItems], ?_, fun next => ?_, ?_⟩
  · rw [Code.import_items_chars lead first others "./types" (by decide),
      String.toList_append]
  · exact Code.import_items_fit lead first others "./types" next gap
      fun name member => (named name member).1
  · exact Code.import_declares lead (first :: others) "./types" gap named path

-- What the import of a client and its class declare.
def clientFound (m : Module) : Decl → List Outline.Declaration
  | .class_ _ _ _ _ _ => [clientOutline m]
  | _ => []

theorem imports_stand (m : Module) (accepted : Accepted m) (plain : PlainModule m) :
    (importDecls m).length ≤ 1 ∧ (∀ d ∈ importDecls m, StandsFor d (clientFound m d)) ∧
      (importDecls m).flatMap (clientFound m) = [] := by
  have named := imported_type_name m accepted plain
  rw [importDecls]
  cases types : importedTypes m with
  | nil => simp
  | cons first others =>
      rw [types] at named
      have stands := import_stands (first :: others) (by simp) named
      exact ⟨Nat.le_refl 1, by simpa [clientFound] using stands, rfl⟩

section PlainFiles

variable [Parser] (header : Bool) (m : Module) (accepted : Accepted m) (plain : PlainModule m)

include accepted plain

theorem types_read_back (nonempty : m.entities ≠ []) (decls : List Decl)
    (succeeds : typeDecls TypeMap.standard m = .ok decls) (lines : List String)
    (whole : ∀ line ∈ lines, ∀ c ∈ line.toList, isLineEnd c = false)
    (follows : FollowsGrammar (Code.SourceFile.render { header := lines, items := decls })) :
    Outline.Module.ofCode (Code.SourceFile.render { header := lines, items := decls }) =
      ⟨typesOutline m, []⟩ := by
  obtain ⟨stand, found⟩ := type_decls_stand m accepted plain decls succeeds
  have some_ : decls ≠ [] := by
    rintro rfl
    obtain ⟨e, others, entities⟩ := List.exists_cons_of_ne_nil nonempty
    simp [typesOutline, entities] at found
  have read := Code.file_read { header := lines, items := decls } typesFound (by simp) some_ whole
    (by simpa using stand) follows
  rw [read, ← found]
  rfl

theorem client_read_back (decl : Decl) (succeeds : clientClass TypeMap.standard m = .ok decl)
    (lines : List String) (whole : ∀ line ∈ lines, ∀ c ∈ line.toList, isLineEnd c = false)
    (follows : FollowsGrammar
      (Code.SourceFile.render { header := lines, imports := importDecls m, items := [decl] })) :
    Outline.Module.ofCode
        (Code.SourceFile.render { header := lines, imports := importDecls m, items := [decl] }) =
      ⟨[clientOutline m], []⟩ := by
  obtain ⟨atMostOne, imports, nothing⟩ := imports_stand m accepted plain
  have own := client_class_stands m accepted plain decl succeeds
  have found : clientFound m decl = [clientOutline m] := by
    obtain ⟨methods, -, rfl⟩ := (map_ok_iff _ _ _).mp succeeds
    rfl
  have read := Code.file_read { header := lines, imports := importDecls m, items := [decl] }
    (clientFound m) atMostOne (by simp) whole
    (List.forall_mem_append.mpr ⟨imports, by simpa [found] using own⟩) follows
  rw [read, List.flatMap_append, nothing, List.flatMap_singleton, found]
  rfl

-- What a file of a module is read as, for each kind that the module has.
theorem emitted_files_read_back (files : List GeneratedFile)
    (emitted : (emitModule ⟨TypeMap.standard, header⟩ m).1 = .ok files)
    (follows : ∀ file ∈ files, FollowsGrammar file.content) :
    files.map (fun file => (file.kind, Outline.Module.ofCode file.content)) =
      (if m.entities.isEmpty then [] else [(FileKind.types, ⟨typesOutline m, []⟩)]) ++
        (if m.operations.isEmpty then [] else [(FileKind.client, ⟨[clientOutline m], []⟩)]) := by
  have whole := header_lines ⟨TypeMap.standard, header⟩ m plain.named
  obtain ⟨types, client, typesMade, clientMade, rfl⟩ := (emit_module_ok _ m files).mp emitted
  rw [List.forall_mem_append] at follows
  obtain ⟨typesFollow, clientFollows⟩ := follows
  rw [List.map_append]
  congr 1
  · rw [source?] at typesMade
    split at typesMade
    · rename_i none_
      cases typesMade
      simp [none_]
    · rename_i some_
      obtain ⟨decls, succeeds, rfl⟩ := (map_ok_iff _ _ _).mp typesMade
      have read := types_read_back m accepted plain (by simpa using some_) decls succeeds _ whole
        (by simpa [rendered, generated] using typesFollow)
      simp [some_, rendered, generated, read]
  · rw [source?] at clientMade
    split at clientMade
    · rename_i none_
      cases clientMade
      simp [none_]
    · rename_i some_
      obtain ⟨decl, succeeds, rfl⟩ := (map_ok_iff _ _ _).mp clientMade
      have read := client_read_back m accepted plain decl succeeds _ whole
        (by simpa [rendered, generated] using clientFollows)
      simp [some_, rendered, generated, read]

end PlainFiles

def library : Module where
  name := "library-api"
  entities :=
    [{ name := "Author", fields := [{ name := "id", type := "uuid" }] },
     { name := "Book",
       fields :=
         [{ name := "tags", type := "string", required := false, list := true, nullable := true },
          { name := "state", type := "enum", values := some ["shelved", "lent-out"] }],
       relations := [{ name := "authors", target := "Author", cardinality := .many }] }]
  basePath := some "/api/"
  operations :=
    [{ name := "editBook", method := .patch, path := "/books/\x7bid\x7d",
       params := [{ name := "id", type := "integer" }],
       request := some { entity := "Book", fields := some ["tags"], partial_ := true },
       response := some { entity := some "Book" } }]

theorem library_plain : PlainModule library where
  named := by decide
  base_plain := Schema.plain_path_chars "/api/".toList [] (by decide) .nil
  entities_plain := by
    simp only [library, List.forall_mem_cons]
    exact ⟨⟨by decide, rfl, by decide, by decide, by decide, by decide⟩,
      ⟨by decide, rfl, by decide, by decide, by decide, by decide⟩, by simp⟩
  operations_plain := by
    simp only [library, List.forall_mem_cons]
    exact ⟨⟨by decide, rfl, Schema.plain_path_chars "/books/".toList _ (by decide)
      (.placeholder "id" [] (by decide) .nil)⟩, by simp⟩

theorem library_files_read_back :
    Schema.Accepted library ∧ PlainModule library ∧ ∃ files,
      (emitModule ⟨TypeMap.standard, true⟩ library).1 = .ok files ∧
      files.map (fun file => (file.kind, Outline.Module.ofCode file.content)) =
        [(.types,
          ⟨[⟨"Author", .interface, none, [⟨"id", some "string", false⟩], []⟩,
            ⟨"BookState", .typeAlias, some "\"shelved\" | \"lent-out\"", [], []⟩,
            ⟨"Book", .interface, none,
              [⟨"tags", some "string[] | null", true⟩, ⟨"state", some "BookState", false⟩,
               ⟨"authors", some "Author[]", true⟩], []⟩,
            ⟨"EditBookRequest", .interface, none, [⟨"tags", some "string[] | null", true⟩], []⟩],
           []⟩),
         (.client,
          ⟨[⟨"LibraryApiClient", .class_, none, [],
            [⟨"editBook", [⟨"id", some "number", false⟩, ⟨"body", some "EditBookRequest", false⟩],
              some "Promise<Book>",
              some ("PATCH $\x7bthis.baseUrl\x7d/api/books/" ++
                "$\x7bencodeURIComponent(String(id))\x7d")⟩]⟩], []⟩)] := by
  have accepted : Schema.Accepted library :=
    ⟨"library-api", ⟨library.entities⟩, ⟨library.basePath, library.operations⟩, rfl⟩
  obtain ⟨files, emitted⟩ : ∃ files, (emitModule ⟨TypeMap.standard, true⟩ library).1 =
      .ok files := ⟨_, rfl⟩
  refine ⟨accepted, library_plain, files, emitted, ?_⟩
  rw [emitted_files_read_back true library accepted library_plain files emitted
    fun file _ => Script.reader_follows file.content]
  decide +kernel

end ApiContract.Emit
