import ApiContract.Proofs.Emit.ReadBack
import ApiContract.Proofs.Script.Preface

/-!
A file without errors declares the same with and without its header, to every parser for which a
comment in a line of its own is one more node, and an empty line nothing.
-/

set_option autoImplicit false

namespace ApiContract

namespace Code

-- A text that is not empty and does not start like a line that names a program.
def Starts (text : String) : Prop :=
  ∃ c rest, text.toList = c :: rest ∧ c ≠ '#'

theorem starts_on (text more : String) (starts : Starts text) : Starts (text ++ more) := by
  obtain ⟨c, rest, chars, noHash⟩ := starts
  exact ⟨c, rest ++ more.toList, by simp [chars], noHash⟩

theorem starts_behind (lead text : String) (free : lead = "" ∨ Starts lead) (starts : Starts text) :
    Starts (lead ++ text) := by
  rcases free with rfl | own
  · simpa using starts
  · exact starts_on lead text own

theorem doc_free (doc : Option String) : docText doc = "" ∨ Starts (docText doc) := by
  cases doc with
  | none => exact .inl rfl
  | some text =>
      rw [docText]
      split
      · exact .inl rfl
      · exact .inr (starts_on _ _ (starts_on _ _ ⟨'/', _, rfl, by decide⟩))
      · exact .inr (starts_on _ _ (starts_on _ _ ⟨'/', _, rfl, by decide⟩))

theorem export_free (isExported : Bool) :
    exportLead isExported = "" ∨ Starts (exportLead isExported) := by
  cases isExported with
  | false => exact .inl rfl
  | true => exact .inr ⟨'e', _, rfl, by decide⟩

theorem async_free (isAsync : Bool) : asyncLead isAsync = "" ∨ Starts (asyncLead isAsync) := by
  cases isAsync with
  | false => exact .inl rfl
  | true => exact .inr ⟨'a', _, rfl, by decide⟩

theorem decl_starts (d : Decl) : Starts d.render := by
  have told (doc : Option String) (isExported : Bool) (text : String) (starts : Starts text) :
      Starts (docText doc ++ exportLead isExported ++ text) := by
    rw [String.append_assoc]
    exact starts_behind _ _ (doc_free doc) (starts_behind _ _ (export_free isExported) starts)
  cases d with
  | import_ names path typeOnly =>
      cases names with
      | nil => exact starts_on _ _ (starts_on _ _ ⟨'i', _, rfl, by decide⟩)
      | cons name rest =>
          have word : Starts (if typeOnly then "import type" else "import") := by
            split <;> exact ⟨'i', _, rfl, by decide⟩
          exact starts_on _ _ (starts_on _ _ (starts_on _ _ (starts_on _ _ (starts_on _ _ word))))
  | interface name isExported parents properties doc =>
      have word := told doc isExported "interface " ⟨'i', _, rfl, by decide⟩
      exact starts_on _ _ (starts_on _ _ (starts_on _ _ (starts_on _ _ word)))
  | typeAlias name isExported type doc =>
      have word := told doc isExported "type " ⟨'t', _, rfl, by decide⟩
      exact starts_on _ _ (starts_on _ _ (starts_on _ _ (starts_on _ _ word)))
  | const name isExported type init doc =>
      have word := told doc isExported "const " ⟨'c', _, rfl, by decide⟩
      exact starts_on _ _ (starts_on _ _ (starts_on _ _ (starts_on _ _ word)))
  | function name isExported isAsync params returns body doc =>
      have word := told doc isExported (asyncLead isAsync ++ "function ")
        (starts_behind _ _ (async_free isAsync) ⟨'f', _, rfl, by decide⟩)
      rw [← String.append_assoc] at word
      exact starts_on _ _ (starts_on _ _ (starts_on _ _ (starts_on _ _ (starts_on _ _ word))))
  | class_ name isExported parent members doc =>
      have word := told doc isExported "class " ⟨'c', _, rfl, by decide⟩
      exact starts_on _ _ (starts_on _ _ (starts_on _ _ (starts_on _ _ word)))

end Code

namespace Emit

open Code (Decl SourceFile headerLead)
open Schema (Module)
open Script (LineLaws Node Parser isLineEnd)

theorem type_decls_nonempty (types : TypeMap) (m : Module) (some_ : m.entities ≠ [])
    (decls : List Decl) (made : typeDecls types m = .ok decls) : decls ≠ [] := by
  obtain ⟨e, others, entities⟩ := List.exists_cons_of_ne_nil some_
  rw [typeDecls, entities] at made
  split at made
  · cases made
  · rename_i all succeeds
    obtain ⟨own, rest, first, -, rfl⟩ := (map_all_cons_ok _ _ _ _).mp succeeds
    obtain ⟨requests, -, rfl⟩ := (map_ok_iff _ _ _).mp made
    obtain ⟨interface, -, rfl⟩ := (map_ok_iff _ _ _).mp first
    simp

theorem import_decls_length (m : Module) : (importDecls m).length ≤ 1 := by
  rw [importDecls]
  split <;> simp

-- What a file is made of, apart from its header.
theorem source_under_headers (types : TypeMap) (m : Module) (kind : FileKind) (header : Bool)
    (file : SourceFile) (made : source? ⟨types, header⟩ m kind = .ok (some file)) :
    file.imports.length ≤ 1 ∧ file.items ≠ [] ∧ ∀ other,
      source? ⟨types, other⟩ m kind =
        .ok (some { file with header := Emit.header ⟨types, other⟩ m }) := by
  cases kind with
  | types =>
      simp only [source?] at made ⊢
      split at made
      · cases made
      · rename_i some_
        obtain ⟨decls, succeeds, same⟩ := (map_ok_iff _ _ _).mp made
        cases same
        have items := type_decls_nonempty types m (by simpa using some_) decls succeeds
        exact ⟨by simp, items, fun other => by rw [if_neg some_, succeeds]; rfl⟩
  | client =>
      simp only [source?] at made ⊢
      split at made
      · cases made
      · rename_i some_
        obtain ⟨decl, succeeds, same⟩ := (map_ok_iff _ _ _).mp made
        cases same
        exact ⟨import_decls_length m, by simp, fun other => by rw [if_neg some_, succeeds]; rfl⟩

theorem render_under_header (file : SourceFile) (atMostOne : file.imports.length ≤ 1)
    (nonempty : file.items ≠ []) (lines : List String) :
    SourceFile.render ⟨lines, file.imports, file.items⟩ =
      headerLead lines ++ SourceFile.render ⟨[], file.imports, file.items⟩ := by
  rw [Code.file_render ⟨lines, _, _⟩ atMostOne nonempty,
    Code.file_render ⟨[], _, _⟩ atMostOne nonempty]
  simp [headerLead, String.append_assoc]

theorem render_no_hash (file : SourceFile) (atMostOne : file.imports.length ≤ 1)
    (nonempty : file.items ≠ []) :
    (SourceFile.render ⟨[], file.imports, file.items⟩).toList.head? ≠ some '#' := by
  obtain ⟨d, rest, decls⟩ : ∃ d rest, file.imports ++ file.items = d :: rest :=
    List.exists_cons_of_ne_nil (by simp [nonempty])
  obtain ⟨c, others, starts, noHash⟩ := Code.decl_starts d
  rw [Code.file_render ⟨[], _, _⟩ atMostOne nonempty, decls, List.map_cons]
  simp [headerLead, Text.join_chars, starts, noHash]

mutual

theorem errors_told : ∀ n : Node, n.hasError = true → n.errors ≠ []
  | ⟨_, kind, _, missing, _, left, children⟩, faulty => by
      rw [Node.errors]
      split
      · simp
      · rename_i sound
        rw [Node.hasError, Bool.or_eq_true, or_iff_right sound] at faulty
        exact errors_told_among children faulty

theorem errors_told_among : ∀ nodes : List Node, Node.anyError nodes = true →
    Node.errorsAmong nodes ≠ []
  | [], faulty => nomatch faulty
  | n :: rest, faulty => by
      rw [Node.errorsAmong]
      cases own : n.hasError with
      | true => simp [errors_told n own]
      | false =>
          rw [Node.anyError, own, Bool.false_or] at faulty
          simpa using errors_told_among rest faulty

end

theorem no_errors_iff (text : String) (root : Node) :
    (Outline.Module.ofTree text root).syntaxErrors = [] ↔ root.hasError = false := by
  cases faulty : root.hasError with
  | false => simp [Outline.Module.ofTree, faulty]
  | true => simpa [Outline.Module.ofTree, faulty] using errors_told root faulty

section Parsed

variable [Parser]

-- A text without errors that declares what another one does.
structure ReadsLike (text body : String) : Prop where
  no_hash : text.toList.head? ≠ some '#'
  fine : (Parser.parse text).hasError = false
  declared : (Outline.Module.ofCode text).declarations = (Outline.Module.ofCode body).declarations

variable (laws : LineLaws)

include laws

theorem reads_behind_comment (line text body : String)
    (within : ∀ c ∈ line.toList, isLineEnd c = false) (reads : ReadsLike text body) :
    ReadsLike ("// " ++ line ++ "\n" ++ text) body := by
  obtain ⟨noHash, fine, declared⟩ := reads
  have blank : "// " ++ line ++ "\n" ++ text = "//" ++ (" " ++ line) ++ "\n" ++ text := by
    rw [← String.toList_inj]
    simp
  have inside : ∀ c ∈ (" " ++ line).toList, isLineEnd c = false := by
    rw [String.toList_append]
    exact List.forall_mem_append.mpr ⟨by simp; decide, within⟩
  have tree := laws.comment (" " ++ line) text inside noHash fine
  rw [← blank] at tree
  refine ⟨by simp, by rw [tree, Script.behind_comment_has_error, fine], ?_⟩
  rw [← declared, Outline.Module.ofCode, Outline.Module.ofCode, tree]
  rfl

theorem reads_behind_feed (text body : String) (reads : ReadsLike text body) :
    ReadsLike ("\n" ++ text) body := by
  obtain ⟨noHash, fine, declared⟩ := reads
  have tree := laws.empty text noHash fine
  refine ⟨by simp, by rw [tree, fine], ?_⟩
  rw [← declared, Outline.Module.ofCode, Outline.Module.ofCode, tree]
  rfl

-- By induction on the lines of the header, each of which is a comment in front of what follows.
theorem reads_behind_lines (first : String) (rest : List String) (text body : String)
    (whole : ∀ line ∈ first :: rest, ∀ c ∈ line.toList, isLineEnd c = false)
    (reads : ReadsLike text body) :
    ReadsLike (Text.join "\n" ((first :: rest).map ("// " ++ ·)) ++ "\n" ++ text) body := by
  induction rest generalizing first with
  | nil => exact reads_behind_comment laws first text body (whole first (by simp)) reads
  | cons second others ih =>
      obtain ⟨own, later⟩ := List.forall_mem_cons.mp whole
      have inner := reads_behind_comment laws first _ body own (ih second later)
      rw [List.map_cons, Text.join_cons _ _ _ (by simp)]
      simpa only [String.append_assoc] using inner

theorem reads_behind_header (lines : List String) (body : String)
    (whole : ∀ line ∈ lines, ∀ c ∈ line.toList, isLineEnd c = false)
    (noHash : body.toList.head? ≠ some '#') (fine : (Parser.parse body).hasError = false) :
    ReadsLike (headerLead lines ++ body) body := by
  have own : ReadsLike body body := ⟨noHash, fine, rfl⟩
  cases lines with
  | nil => simpa [headerLead] using own
  | cons first rest =>
      have feed := reads_behind_feed laws body body own
      have all := reads_behind_lines laws first rest _ body whole feed
      have feeds : "\n" ++ ("\n" ++ body) = "\n\n" ++ body := by
        rw [← String.toList_inj]
        simp
      rw [String.append_assoc, feeds] at all
      simpa [headerLead, String.append_assoc] using all

-- Whatever the setting, a file is made, and it declares what the one without a header does.
theorem emitted_reads_as_bare (types : TypeMap) (m : Module)
    (whole : ∀ c ∈ m.name.toList, isLineEnd c = false) (kind : FileKind) (bare : GeneratedFile)
    (emitted : emitFile? ⟨types, false⟩ m kind = .ok (some bare))
    (parses : (Outline.Module.ofCode bare.content).syntaxErrors = []) (header : Bool) :
    ∃ file, emitFile? ⟨types, header⟩ m kind = .ok (some file) ∧
      (Outline.Module.ofCode file.content).declarations =
        (Outline.Module.ofCode bare.content).declarations ∧
      (Outline.Module.ofCode file.content).syntaxErrors = [] := by
  obtain ⟨source, made, rendered⟩ := (map_ok_iff _ _ _).mp emitted
  obtain ⟨source, rfl, rfl⟩ := Option.map_eq_some_iff.mp rendered
  obtain ⟨atMostOne, nonempty, always⟩ := source_under_headers types m kind false source made
  have bareHeader : source.header = [] := by
    have again := always false
    rw [made] at again
    exact congrArg SourceFile.header (Option.some.inj (Except.ok.inj again))
  obtain ⟨lines, imports, items⟩ := source
  simp only at bareHeader
  subst bareHeader
  have noHash := render_no_hash ⟨[], imports, items⟩ atMostOne nonempty
  have text := render_under_header ⟨[], imports, items⟩ atMostOne nonempty
    (Emit.header ⟨types, header⟩ m)
  have reads := reads_behind_header laws _ _ (header_whole ⟨types, header⟩ m whole) noHash
    ((no_errors_iff _ _).mp parses)
  rw [← text] at reads
  have file : emitFile? ⟨types, header⟩ m kind =
      .ok (some (generated m kind
        (SourceFile.render ⟨Emit.header ⟨types, header⟩ m, imports, items⟩))) := by
    rw [emitFile?, always header, Except.map, Option.map_some]
  exact ⟨_, file, reads.declared, (no_errors_iff _ _).mpr reads.fine⟩

end Parsed

end Emit

end ApiContract
