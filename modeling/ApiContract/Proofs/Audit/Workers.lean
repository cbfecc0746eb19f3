import ApiContract.Audit.Files
import Mathlib.Data.List.Nodup
import Mathlib.Data.List.Perm.Basic

/-!
Whatever the order in which the workers come to an end, the report has what they bring in the order
of the modules: what comes out of sorting by a key that tells the items apart does not depend on the
order in which they went in.
-/

set_option autoImplicit false

namespace ApiContract

section Sorting

variable {α κ : Type} [LE κ] [DecidableLE κ] [Std.IsLinearOrder κ] (key : α → κ)

theorem sorted_by_key (items : List α) :
    (items.mergeSort fun a b => decide (key a ≤ key b)).Pairwise fun a b => key a ≤ key b := by
  have transitive (a b c : α) (ab : decide (key a ≤ key b) = true)
      (bc : decide (key b ≤ key c) = true) : decide (key a ≤ key c) = true :=
    decide_eq_true (Std.le_trans (of_decide_eq_true ab) (of_decide_eq_true bc))
  have total (a b : α) : (decide (key a ≤ key b) || decide (key b ≤ key a)) = true := by
    simpa using Std.le_total
  exact (List.pairwise_mergeSort transitive total items).imp of_decide_eq_true

theorem sort_any_order (first second : List α) (reordered : first.Perm second)
    (apart : ∀ a ∈ first, ∀ b ∈ first, key a = key b → a = b) :
    (first.mergeSort fun a b => decide (key a ≤ key b)) =
      second.mergeSort fun a b => decide (key a ≤ key b) := by
  have one := List.mergeSort_perm first fun a b => decide (key a ≤ key b)
  have two := List.mergeSort_perm second fun a b => decide (key a ≤ key b)
  refine List.Perm.eq_of_pairwise (fun a b inOne inTwo ab ba => ?_) (sorted_by_key key first)
    (sorted_by_key key second) (one.trans (reordered.trans two.symm))
  exact apart a (one.mem_iff.mp inOne) b (reordered.mem_iff.mpr (two.mem_iff.mp inTwo))
    (Std.le_antisymm ab ba)

end Sorting

namespace Audit

open Emit (Settings)
open Files (Disk)
open Script (Parser)

def selected (modules : List Schema.Module) (pattern : Glob.Pattern) : List Schema.Module :=
  modules.filter fun m => pattern.matches m.name

def reportOf [Parser] (s : Settings) (directory : String) (disk : Disk) (chosen : List Schema.Module)
    (others : List Finding) : Report :=
  ⟨.normal, (chosen.flatMap fun m => (auditModule s directory disk m).1.findings) ++ others,
    chosen.flatMap fun m => (auditModule s directory disk m).1.failures⟩

theorem by_place_finished (finish : Finish) (brought : List Brought)
    (placed : (brought.map Prod.fst).Pairwise (· < ·)) :
    byPlace (finish.order brought) = brought := by
  have apart : ∀ a ∈ brought, ∀ b ∈ brought, a.1 = b.1 → a = b := fun a ofA b ofB same =>
    List.inj_on_of_nodup_map (placed.imp Nat.ne_of_lt) ofA ofB same
  have ordered : brought.Pairwise fun a b => decide (a.1 ≤ b.1) = true :=
    (List.pairwise_map.mp placed).imp fun less => decide_eq_true (Nat.le_of_lt less)
  rw [byPlace, ← sort_any_order Prod.fst brought _ (finish.keeps_all brought).symm apart]
  exact List.mergeSort_of_pairwise ordered

theorem selected_places (modules : List Schema.Module) (pattern : Glob.Pattern) :
    ((modules.zipIdx.filter fun m => pattern.matches m.1.name).map Prod.snd).Pairwise (· < ·) := by
  have places : (modules.zipIdx.map Prod.snd).Pairwise (· < ·) := by
    rw [List.zipIdx_map_snd]
    exact List.pairwise_lt_range'
  exact places.sublist (List.filter_sublist.map Prod.snd)

theorem selected_modules (modules : List Schema.Module) (pattern : Glob.Pattern) :
    (modules.zipIdx.filter fun m => pattern.matches m.1.name).map Prod.fst =
      selected modules pattern := by
  conv => rhs; rw [selected, ← List.zipIdx_map_fst 0 modules, List.filter_map]
  rfl

theorem audit_files_by_eq [Parser] (finish : Finish) (s : Settings) (directory : String) (disk : Disk)
    (modules : List Schema.Module) (glob : String) :
    (auditFilesBy finish s directory disk modules glob).1 =
      match Glob.Pattern.parse glob with
      | .error e => .error (.pattern e)
      | .ok pattern =>
          match orphans directory disk modules pattern with
          | .error fault => .error (.file fault)
          | .ok others => .ok (reportOf s directory disk (selected modules pattern) others) := by
  rw [auditFilesBy]
  cases Glob.Pattern.parse glob with
  | error e => rfl
  | ok pattern =>
      have inOrder := by_place_finished finish
        ((modules.zipIdx.filter fun m => pattern.matches m.1.name).map fun m =>
          (m.2, auditModule s directory disk m.1))
        (by
          rw [List.map_map]
          exact selected_places modules pattern)
      simp only [inOrder, reportOf, ← selected_modules, List.flatMap_map]
      cases orphans directory disk modules pattern with
      | error fault => rfl
      | ok others => rfl

theorem audit_files_by_ok [Parser] (finish : Finish) (s : Settings) (directory : String) (disk : Disk)
    (modules : List Schema.Module) (glob : String) (report : Report) :
    (auditFilesBy finish s directory disk modules glob).1 = .ok report ↔
      ∃ pattern others, Glob.Pattern.parse glob = .ok pattern ∧
        orphans directory disk modules pattern = .ok others ∧
        report = reportOf s directory disk (selected modules pattern) others := by
  rw [audit_files_by_eq]
  cases Glob.Pattern.parse glob with
  | error e => simp
  | ok pattern =>
      simp only [Except.ok.injEq, exists_and_left, exists_eq_left']
      cases orphans directory disk modules pattern with
      | error fault => simp
      | ok others => simp [eq_comm]

end Audit

end ApiContract
