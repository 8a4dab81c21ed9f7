/-!
Paths as they are compared: by their components. One path may be written in several ways. Several slashes count as one,
and neither a slash at the end counts nor a dot behind a slash.
-/
namespace CodeAudit.Path

/-- What a path leads through, from left to right: the root or the place where it starts, if it says so, and then the
places above and the names. -/
inductive Component where
  | root
  | here
  | above
  | name (n : String)
deriving DecidableEq

/-- What stands between two slashes leads nowhere if it is empty or a dot. -/
def component? : List Char → Option Component
  | [] | ['.'] => none
  | ['.', '.'] => some .above
  | n => some (.name (.ofList n))

/-- The components behind the start of a path. -/
def steps (cs : List Char) : List Component :=
  (cs.splitOn '/').filterMap component?

/-- Where a path that has no root starts. -/
def start (cs : List Char) : List Component :=
  if (cs.splitOn '/').head? = some ['.'] then [.here] else []

def componentsOf : List Char → List Component
  | '/' :: rest => .root :: steps rest
  | cs => start cs ++ steps cs

def components (path : String) : List Component :=
  componentsOf path.toList

/-! ### Spellings of one path -/

@[simp] theorem steps_nil : steps [] = [] := rfl

/-- What stands behind a slash adds its own steps. -/
theorem steps_append (cs ds : List Char) : steps (cs ++ '/' :: ds) = steps cs ++ steps ds := by
  rw [steps, steps, steps, List.splitOn_append_cons_self, List.filterMap_append]

theorem start_append (cs ds : List Char) : start (cs ++ '/' :: ds) = start cs := by
  obtain ⟨first, others, split⟩ := List.exists_cons_of_ne_nil (List.splitOn_ne_nil '/' cs)
  rw [start, start, List.splitOn_append_cons_self, split]
  rfl

theorem componentsOf_of_ne {cs : List Char} (relative : cs.head? ≠ some '/') :
    componentsOf cs = start cs ++ steps cs := by
  unfold componentsOf
  split
  · simp at relative
  · rfl

theorem componentsOf_append {cs : List Char} (nonempty : cs ≠ []) (ds : List Char) :
    componentsOf (cs ++ '/' :: ds) = componentsOf cs ++ steps ds := by
  obtain ⟨c, rest, rfl⟩ := List.exists_cons_of_ne_nil nonempty
  by_cases root : c = '/'
  · subst root
    exact congrArg (Component.root :: ·) (steps_append rest ds)
  · have relative (more : List Char) : (c :: more).head? ≠ some '/' := by simpa using root
    rw [componentsOf_of_ne (relative rest), List.append_assoc, ← steps_append, ← start_append _ ds]
    exact componentsOf_of_ne (relative _)

/-- A slash at the end, one more slash and a dot between two slashes make no difference. -/
theorem componentsOf_respelled {cs : List Char} (nonempty : cs ≠ []) (ds : List Char) :
    componentsOf (cs ++ ['/']) = componentsOf cs ∧
      componentsOf (cs ++ '/' :: '/' :: ds) = componentsOf (cs ++ '/' :: ds) ∧
      componentsOf (cs ++ '/' :: '.' :: '/' :: ds) = componentsOf (cs ++ '/' :: ds) := by
  have slash : steps ('/' :: ds) = steps ds := steps_append [] ds
  have dot : steps ('.' :: '/' :: ds) = steps ds := steps_append ['.'] ds
  simp only [componentsOf_append nonempty, slash, dot, steps_nil, List.append_nil, and_self]

end CodeAudit.Path
