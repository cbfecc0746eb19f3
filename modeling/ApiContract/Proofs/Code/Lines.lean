import ApiContract.Code.Decl
import ApiContract.Proofs.Code.Layout
import ApiContract.Proofs.Code.MethodItems

/-!
Parts of declarations in which no line ends, and blocks of statements line by line.
-/

set_option autoImplicit false

namespace ApiContract.Code

open Outline (IsIdentifier WellSpelled WellSpelledAll)
open Text (Unbroken)

theorem identifier_unbroken (name : String) (named : IsIdentifier name) : Unbroken name.toList := by
  obtain ⟨c, rest, -, -, parts⟩ := Name.identifier_parts name named
  have other (d : Char) (part : Name.isPart d = true) : d ≠ '\n' ∧ d ≠ '\r' :=
    Name.part_all (fun d => d ≠ '\n' ∧ d ≠ '\r') (by decide) d part
  exact ⟨fun member => (other _ (parts _ member)).1 rfl, fun member => (other _ (parts _ member)).2 rfl⟩

theorem quoted_unbroken (text : String) : Unbroken (quoted text).toList := by
  have each : ∀ c, Unbroken (escapeChar c) := by
    intro c
    unfold escapeChar
    split_ifs with quote slash feed return_ tab
    · simp
    · simp
    · simp
    · simp
    · simp
    · simpa using ⟨feed, return_⟩
  have inner (cs : List Char) : Unbroken (cs.flatMap escapeChar) := by
    induction cs with
    | nil => exact unbroken_nil
    | cons c rest ih => simpa using ⟨each c, ih⟩
  rw [quoted, String.toList_ofList]
  simpa using inner text.toList

theorem join_unbroken (sep : String) (texts : List String) (apart : Unbroken sep.toList)
    (each : ∀ text ∈ texts, Unbroken text.toList) : Unbroken (Text.join sep texts).toList := by
  cases texts with
  | nil => exact unbroken_nil
  | cons first others =>
      obtain ⟨own, later⟩ := List.forall_mem_cons.mp each
      rw [Text.join_chars, unbroken_append]
      refine ⟨own, ?_⟩
      clear each own
      induction others with
      | nil => exact unbroken_nil
      | cons text rest ih =>
          obtain ⟨second, more⟩ := List.forall_mem_cons.mp later
          simpa using ⟨apart, second, ih more⟩

mutual

theorem type_unbroken : ∀ t : TypeExpr, WellSpelled IsIdentifier t → Unbroken t.render.toList
  | .named name, named => identifier_unbroken name named
  | .arrayOf element, spelled => by
      have own := type_unbroken element spelled
      rw [array_render]
      cases element.isUnion <;> simpa using own
  | .union members, ⟨_, spelled⟩ =>
      join_unbroken _ _ (by simp) (types_unbroken members spelled)
  | .generic name args, ⟨named, spelled⟩ => by
      have own := join_unbroken ", " _ (by simp) (types_unbroken args spelled)
      simpa [TypeExpr.render] using ⟨identifier_unbroken name named, own⟩
  | .literal value, _ => quoted_unbroken value

theorem types_unbroken : ∀ ts : List TypeExpr, WellSpelledAll IsIdentifier ts →
    ∀ text ∈ TypeExpr.renderAll ts, Unbroken text.toList
  | [], _ => by simp [TypeExpr.renderAll]
  | t :: rest, ⟨own, later⟩ =>
      List.forall_mem_cons.mpr ⟨type_unbroken t own, types_unbroken rest later⟩

end

theorem plain_type_unbroken (t : TypeExpr) (plain : PlainType t) : Unbroken t.render.toList :=
  type_unbroken t (plain_type_spelled t plain)

theorem param_list_unbroken (params : List (String × TypeExpr))
    (plain : ∀ p ∈ params, PlainParam p) :
    Unbroken (paramList (params.map fun p => plainParam p.1 p.2)).toList := by
  have each : ∀ text ∈ Expr.renderParams (params.map fun p => plainParam p.1 p.2),
      Unbroken text.toList := by
    induction params with
    | nil => simp [Expr.renderParams]
    | cons p rest ih =>
        obtain ⟨own, later⟩ := List.forall_mem_cons.mp plain
        refine List.forall_mem_cons.mpr ⟨?_, ih later⟩
        simpa using ⟨identifier_unbroken p.1 own.named.1, plain_type_unbroken p.2 own.type_plain⟩
  simpa [paramList] using join_unbroken ", " _ (by simp) each

theorem property_line (p : Property) (plain : PlainProperty p) : IsLine p.render := by
  obtain ⟨noDoc, notReadonly, named, typed⟩ := plain
  have name := identifier_unbroken p.name named.1
  have type := plain_type_unbroken p.type typed
  cases optional : p.optional <;>
    simp [IsLine, Property.render, noDoc, notReadonly, docText, optional, name, type]

-- A block of statements that are made of whole lines.
def blockLines (blocks : List (List String)) : List String :=
  "\x7b" :: (movedIn 1 blocks.flatten ++ ["\x7d"])

theorem render_all_map (stmts : List Stmt) : Stmt.renderAll stmts = stmts.map Stmt.render := by
  induction stmts with
  | nil => rfl
  | cons s rest ih => rw [Stmt.renderAll, ih, List.map_cons]

theorem block_join (stmts : List Stmt) (blocks : List (List String)) (nonempty : stmts ≠ [])
    (renders : stmts.map Stmt.render = blocks.map (Text.join "\n"))
    (full : ∀ block ∈ blocks, block ≠ [] ∧ ∀ line ∈ block, IsLine line) :
    Stmt.block stmts = Text.join "\n" (blockLines blocks) := by
  obtain ⟨s, rest, rfl⟩ := List.exists_cons_of_ne_nil nonempty
  have some_ : movedIn 1 blocks.flatten ≠ [] := by
    obtain ⟨first, others, rfl⟩ : ∃ first others, blocks = first :: others := by
      cases blocks with
      | nil => simp at renders
      | cons first others => exact ⟨first, others, rfl⟩
    simp [movedIn, (full first (by simp)).1]
  have inner := join_apart "\n" _ some_
  have stacked := stack_join 0 blocks full
  rw [← renders, ← render_all_map, Stmt.renderAll] at stacked
  rw [← String.toList_inj, Stmt.block, stacked, blockLines, Text.join_chars, List.flatMap_append,
    ← inner]
  simp

-- What is written in front of lines goes in front of the first of them.
theorem append_join (text line : String) (rest : List String) :
    text ++ Text.join "\n" (line :: rest) = Text.join "\n" ((text ++ line) :: rest) := by
  rw [← String.toList_inj]
  simp [Text.join_chars]

end ApiContract.Code
