/-!
# Credentials

Names with secrets, such as the keys of a cloud provider. They are kept in the order of the names,
and a name stands once: setting it again replaces its secret. `names` is all that may be shown.
-/

namespace QueryResult

/-- Whether one name comes before another, by the code points of their characters. -/
def nameLess (a b : String) : Bool := decide (a.toList < b.toList)

theorem nameLess_trans {a b c : String} (h : nameLess a b = true) (k : nameLess b c = true) :
    nameLess a c = true := by
  simp only [nameLess, decide_eq_true_eq] at *
  exact List.lt_trans h k

theorem nameLess_of_ne {a b : String} (hne : a ≠ b) (h : nameLess a b = false) :
    nameLess b a = true := by
  simp only [nameLess, decide_eq_true_eq, decide_eq_false_iff_not, List.not_lt] at *
  rcases List.le_iff_lt_or_eq.1 h with k | k
  · exact k
  · exact absurd (String.toList_injective k).symm hne

/-- Whether entries stand in the order of their names, each name once. -/
def InNameOrder (entries : List (String × String)) : Prop :=
  entries.Pairwise fun a b => nameLess a.1 b.1 = true

/-- Names with their secrets. -/
structure Credentials where
  entries : List (String × String)
  inOrder : InNameOrder entries
deriving DecidableEq

namespace Credentials

/-- Entries with a name set to a secret. -/
def setEntry (name secret : String) : List (String × String) → List (String × String)
  | [] => [(name, secret)]
  | (n, s) :: rest =>
    if nameLess name n then (name, secret) :: (n, s) :: rest
    else if name = n then (name, secret) :: rest
    else (n, s) :: setEntry name secret rest

theorem mem_of_mem_setEntry {name secret : String} {p : String × String}
    {entries : List (String × String)} (h : p ∈ setEntry name secret entries) :
    p = (name, secret) ∨ p ∈ entries := by
  fun_induction setEntry name secret entries <;> grind

theorem inNameOrder_setEntry {name secret : String} {entries : List (String × String)}
    (h : InNameOrder entries) : InNameOrder (setEntry name secret entries) := by
  fun_induction setEntry name secret entries with
  | case1 => exact List.pairwise_singleton ..
  | case2 n s rest hlt =>
    have ⟨hhead, _⟩ := List.pairwise_cons.1 h
    refine List.pairwise_cons.2 ⟨fun p hp => ?_, h⟩
    rcases List.mem_cons.1 hp with rfl | hp
    · exact hlt
    · exact nameLess_trans hlt (hhead p hp)
  | case3 s rest _ =>
    have ⟨hhead, htail⟩ := List.pairwise_cons.1 h
    exact List.pairwise_cons.2 ⟨hhead, htail⟩
  | case4 n s rest hn hne ih =>
    have ⟨hhead, htail⟩ := List.pairwise_cons.1 h
    refine List.pairwise_cons.2 ⟨fun p hp => ?_, ih htail⟩
    rcases mem_of_mem_setEntry hp with rfl | hp
    · exact nameLess_of_ne hne (by simpa using hn)
    · exact hhead p hp

/-- No credentials. -/
def empty : Credentials := ⟨[], .nil⟩

/-- Credentials with a name set to a secret. -/
def insert (cs : Credentials) (name secret : String) : Credentials :=
  ⟨setEntry name secret cs.entries, inNameOrder_setEntry cs.inOrder⟩

/-- The credentials of pairs in any order; of a name that is repeated the last secret counts. -/
def ofList (pairs : List (String × String)) : Credentials :=
  pairs.foldl (fun cs p => cs.insert p.1 p.2) empty

/-- The names without their secrets. -/
def names (cs : Credentials) : List String := cs.entries.map Prod.fst

/-- Whether there are none. -/
def isEmpty (cs : Credentials) : Bool := cs.entries.isEmpty

@[simp] theorem isEmpty_names (cs : Credentials) : cs.names.isEmpty = cs.isEmpty := by
  simp [names, isEmpty]

end Credentials
end QueryResult
