import Mathlib.Order.Bounds.Basic
import QueryResult.Proofs.CursorDelivery
import QueryResult.Proofs.Spelling

/-!
# Columns by name

A name refers to the first column of exactly that name. Only if there is none does it refer to a
column whose name differs in the case of ASCII letters, again to the first one (`RefersTo`); this is
the column that a relation finds (`find?_eq_iff_refersTo`). A cursor that has not been closed answers
a request by name just as it answers the request by the index of that column, counted from 1, and is
left the same; if the name refers to nothing, or the cursor has been closed, the request fails and
leaves no trace. The main statement, `names_lead_to_columns`, says so of every cursor that a walk
leads to.
-/

namespace QueryResult
open QueryResult.Text

/-! ## Relations -/

namespace Relation

/-- The positions of the columns that are as a predicate says. -/
def places (r : Relation) (P : Column → Prop) : Set Nat :=
  {i | ∃ c, r.columns[i]? = some c ∧ P c}

/-- The positions of the columns of exactly a name. -/
def named (r : Relation) (name : String) : Set Nat :=
  r.places fun c => c.name = name

/-- The positions of the columns of a name, whatever the case of its ASCII letters. -/
def nearlyNamed (r : Relation) (name : String) : Set Nat :=
  r.places fun c => List.Forall₂ SameLetter c.name.toList name.toList

/-- The position that a name refers to, none if it refers to no column. -/
inductive RefersTo (r : Relation) (name : String) : Option Nat → Prop where
  | exact {i : Nat} (least : IsLeast (r.named name) i) : RefersTo r name (some i)
  | ignoringCase {i : Nat} (nowhere : r.named name = ∅) (least : IsLeast (r.nearlyNamed name) i) :
      RefersTo r name (some i)
  | missing (nowhere : r.nearlyNamed name = ∅) : RefersTo r name none

variable {r : Relation} {name : String} {P : Column → Prop} {p : Column → Bool} {i : Nat}

/-- A search from the front finds the least position. -/
theorem findIdx?_eq_some_iff_isLeast (decides : ∀ c, p c = true ↔ P c) :
    r.columns.findIdx? p = some i ↔ IsLeast (r.places P) i := by
  rw [List.findIdx?_eq_some_iff_getElem]
  constructor
  · rintro ⟨below, here, before⟩
    refine ⟨⟨r.columns[i], List.getElem?_eq_getElem below, (decides _).1 here⟩, ?_⟩
    rintro j ⟨c, there, holds⟩
    by_contra earlier
    obtain ⟨below', rfl⟩ := List.getElem?_eq_some_iff.1 there
    exact before j (by omega) ((decides _).2 holds)
  · rintro ⟨⟨c, there, holds⟩, least⟩
    obtain ⟨below, rfl⟩ := List.getElem?_eq_some_iff.1 there
    refine ⟨below, (decides _).2 holds, fun j earlier found => ?_⟩
    have mem : j ∈ r.places P :=
      ⟨_, List.getElem?_eq_getElem (Nat.lt_trans earlier below), (decides _).1 found⟩
    have := least mem
    omega

theorem findIdx?_eq_none_iff_places (decides : ∀ c, p c = true ↔ P c) :
    r.columns.findIdx? p = none ↔ r.places P = ∅ := by
  rw [List.findIdx?_eq_none_iff, Set.eq_empty_iff_forall_notMem]
  constructor
  · rintro nowhere j ⟨c, there, holds⟩
    have := nowhere c (List.mem_of_getElem? there)
    rw [(decides c).2 holds] at this
    nomatch this
  · intro empty c mem
    obtain ⟨j, there⟩ := List.mem_iff_getElem?.1 mem
    rw [← Bool.not_eq_true, decides]
    exact fun holds => empty j ⟨c, there, holds⟩

/-- What has exactly a name has it whatever the case. -/
theorem named_subset_nearlyNamed (r : Relation) (name : String) :
    r.named name ⊆ r.nearlyNamed name := by
  rintro j ⟨c, there, rfl⟩
  exact ⟨c, there, List.forall₂_same.2 fun _ _ => .inl rfl⟩

theorem refersTo_find? (r : Relation) (name : String) : r.RefersTo name (r.find? name) := by
  have exactly : ∀ c : Column, (c.name == name) = true ↔ c.name = name := fun c => beq_iff_eq
  have nearly : ∀ c : Column, sameIgnoringCase c.name name = true ↔
      List.Forall₂ SameLetter c.name.toList name.toList := fun c => sameIgnoringCase_iff_forall₂
  rw [find?, Option.orElse_eq_orElse, Option.orElse_eq_or]
  cases first : r.columns.findIdx? fun c => c.name == name with
  | some i => exact .exact ((findIdx?_eq_some_iff_isLeast exactly).1 first)
  | none =>
    have nowhere := (findIdx?_eq_none_iff_places exactly).1 first
    cases second : r.columns.findIdx? fun c => sameIgnoringCase c.name name with
    | some i => exact .ignoringCase nowhere ((findIdx?_eq_some_iff_isLeast nearly).1 second)
    | none => exact .missing ((findIdx?_eq_none_iff_places nearly).1 second)

theorem RefersTo.unique {a b : Option Nat} (h : r.RefersTo name a) (h' : r.RefersTo name b) :
    a = b := by
  have inside := named_subset_nearlyNamed r name
  cases h with
  | exact least =>
    cases h' with
    | exact least' => rw [least.unique least']
    | ignoringCase nowhere _ => exact absurd (nowhere ▸ least.1) (Set.notMem_empty _)
    | missing nowhere => exact absurd (nowhere ▸ inside least.1) (Set.notMem_empty _)
  | ignoringCase nowhere least =>
    cases h' with
    | exact least' => exact absurd (nowhere ▸ least'.1) (Set.notMem_empty _)
    | ignoringCase _ least' => rw [least.unique least']
    | missing nowhere => exact absurd (nowhere ▸ least.1) (Set.notMem_empty _)
  | missing nowhere =>
    cases h' with
    | exact least => exact absurd (nowhere ▸ inside least.1) (Set.notMem_empty _)
    | ignoringCase _ least => exact absurd (nowhere ▸ least.1) (Set.notMem_empty _)
    | missing _ => rfl

/-- A relation finds the column that a name refers to. -/
theorem find?_eq_iff_refersTo {o : Option Nat} : r.find? name = o ↔ r.RefersTo name o := by
  constructor
  · rintro rfl
    exact refersTo_find? r name
  · exact (refersTo_find? r name).unique

/-- A column is found by its own name unless an earlier one has the same. -/
theorem find?_name_eq_some_iff {column : Column} (there : r.columns[i]? = some column) :
    r.find? column.name = some i ↔ ∀ j < i, j ∉ r.named column.name := by
  have mem : i ∈ r.named column.name := ⟨column, there, rfl⟩
  rw [find?_eq_iff_refersTo]
  constructor
  · intro refers j earlier same
    cases refers with
    | exact least =>
      have := least.2 same
      omega
    | ignoringCase nowhere _ => exact absurd (nowhere ▸ mem) (Set.notMem_empty _)
  · intro first
    refine .exact ⟨mem, fun j same => ?_⟩
    by_contra earlier
    exact first j (by omega) same

end Relation

/-! ## Cursors -/

namespace Cursor
open QueryResult.Session

/-- How the names of columns are taken by a cursor that walks the rows of a relation. -/
structure NamesLead (relation : Relation) (c : Cursor) : Prop where
  /-- The relation finds what a name refers to, and nothing else. -/
  lookup : ∀ name o, relation.find? name = o ↔ relation.RefersTo name o
  /-- A column is found by its own name unless an earlier one has exactly the same. -/
  own : ∀ i column, relation.columns[i]? = some column →
    (relation.find? column.name = some i ↔ ∀ j < i, j ∉ relation.named column.name)
  /-- Until the cursor is closed, a name stands for the index of its column, counted from 1, in
  whatever way the column is asked for: the answer and the cursor that is left are the same. -/
  found : c.isClosed = false → ∀ name i, relation.RefersTo name (some i) →
    c.step (.findColumn name) = (.ok (.index (i + 1)), c) ∧
      ∀ a, c.step (.readNamed a name) = c.step (.read a (i + 1))
  /-- A name that refers to no column is named by the error, and nothing is changed. -/
  missing : c.isClosed = false → ∀ name, relation.RefersTo name none →
    c.step (.findColumn name) = (.error (.columnNotFound name), c) ∧
      ∀ a, c.step (.readNamed a name) = (.error (.columnNotFound name), c)
  /-- A closed cursor does not look names up: whatever the name, it fails as closed. -/
  closed : c.isClosed = true → ∀ name,
    c.step (.findColumn name) = (.error (.state .closed), c) ∧
      ∀ a, c.step (.readNamed a name) = (.error (.state .closed), c)

variable {c : Cursor} {name : String}

/-- What finds a column by its name reads it by its index. -/
theorem step_of_findColumn {index : Nat} (found : c.findColumn name = .ok index) :
    c.step (.findColumn name) = (.ok (.index index), c) ∧
      ∀ a, c.step (.readNamed a name) = c.step (.read a index) := by
  constructor
  · simp only [step, found]
    rfl
  · intro a
    simp only [step, readNamed_of_found a found]

/-- What finds no column reads none, and leaves the cursor. -/
theorem step_of_findColumn_error {e : ReadError} (fails : c.findColumn name = .error e) :
    c.step (.findColumn name) = (.error e, c) ∧
      ∀ a, c.step (.readNamed a name) = (.error e, c) := by
  constructor
  · simp only [step, fails]
    rfl
  · intro a
    simp only [step, readNamed_of_error a fails]
    rfl

/-- **Names lead to columns**, wherever a walk has led. -/
theorem names_lead_to_columns (relation : Relation) (context : Context) (supply : Supply)
    (requests : List Request) :
    NamesLead relation ((start relation context supply).run requests) := by
  have h := (Delivered.start relation context supply).run requests
  have phase_iff (c : Cursor) : c.isClosed = true ↔ c.phase = .closed := beq_iff_eq
  constructor
  case lookup => exact fun name o => Relation.find?_eq_iff_refersTo
  case own => exact fun i column there => Relation.find?_name_eq_some_iff there
  case found =>
    intro open_ name i refers
    have open_ := mt (phase_iff _).2 (by rw [open_]; nofun)
    apply step_of_findColumn
    apply findColumn_of_found open_
    rw [h.columns open_]
    exact Relation.find?_eq_iff_refersTo.2 refers
  case missing =>
    intro open_ name refers
    have open_ := mt (phase_iff _).2 (by rw [open_]; nofun)
    apply step_of_findColumn_error
    apply findColumn_of_missing open_
    rw [h.columns open_]
    exact Relation.find?_eq_iff_refersTo.2 refers
  case closed =>
    intro closed name
    exact step_of_findColumn_error (findColumn_of_closed ((phase_iff _).1 closed))

/-- The exact name comes first, wherever it stands. -/
example : [ "ID", "id", "NAME", "Name", "missing"].map
    (Relation.find? ⟨[⟨"ID", ⟨.bigInt, 0, false⟩⟩, ⟨"name", ⟨.string, 0, true⟩⟩,
      ⟨"NAME", ⟨.string, 0, true⟩⟩]⟩) = [some 0, some 0, some 2, some 1, none] := by
  decide +kernel

end Cursor
end QueryResult
