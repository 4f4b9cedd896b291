import Mathlib.Data.List.Infix
import Mathlib.Data.List.Basic

set_option autoImplicit false

namespace Library

universe u v

inductive Node (Bytes : Type v) where
  | file (bytes : Bytes)
  | dir
deriving DecidableEq

abbrev Path (Name : Type u) := List Name

namespace FileTree

variable {Name : Type u} {Bytes : Type v}

section Paths

def Above (upper lower : Path Name) : Prop := upper <+: lower ∧ upper ≠ lower

instance [DecidableEq Name] (upper lower : Path Name) : Decidable (Above upper lower) :=
  inferInstanceAs (Decidable (_ ∧ _))

variable {upper lower : Path Name}

theorem Above.length (above : Above upper lower) :
    upper.length < lower.length := by
  have short := above.1.length_le
  by_contra long
  exact above.2 (above.1.eq_of_length (by omega))

theorem Above.nonempty (above : Above upper lower) : lower ≠ [] := by
  intro empty
  have short := above.length
  rw [empty] at short
  exact absurd short (Nat.not_lt_zero _)

theorem Above.dropLast (above : Above upper lower) :
    upper <+: lower.dropLast := by
  have length := above.length
  have within : lower.dropLast <+: lower := List.dropLast_prefix lower
  apply List.prefix_of_prefix_length_le above.1 within
  rw [List.length_dropLast]
  omega

theorem above_dropLast {path : Path Name} (proper : path ≠ []) : Above path.dropLast path := by
  constructor
  · exact List.dropLast_prefix path
  · intro same
    have length := congrArg List.length same
    have positive := List.length_pos_iff.mpr proper
    rw [List.length_dropLast] at length
    omega

theorem above_iff (proper : lower ≠ []) :
    Above upper lower ↔ upper <+: lower.dropLast := by
  constructor
  · exact Above.dropLast
  · intro within
    refine ⟨within.trans (List.dropLast_prefix lower), ?_⟩
    intro same
    have shorter := within.length_le
    have positive := List.length_pos_iff.mpr proper
    rw [same, List.length_dropLast] at shorter
    omega

theorem Above.of_within {middle : Path Name} (within : upper <+: middle)
    (above : Above middle lower) : Above upper lower := by
  have shorter := above.length
  refine ⟨within.trans above.1, ?_⟩
  intro same
  have longer := within.length_le
  rw [same] at longer
  omega

theorem above_irrefl (path : Path Name) : ¬ Above path path := fun above => above.2 rfl

end Paths

abbrev View (Name : Type u) (Bytes : Type v) := Path Name → Option (Node Bytes)

structure Rooted (view : View Name Bytes) : Prop where
  root : view [] = some .dir
  above : ∀ upper lower, Above upper lower → view lower ≠ none → view upper = some .dir

theorem Rooted.of_parents {view : View Name Bytes} (root : view [] = some .dir)
    (parents : ∀ path, view path ≠ none → view path.dropLast = some .dir) : Rooted view := by
  refine ⟨root, ?_⟩
  intro upper lower
  induction length : lower.length generalizing lower with
  | zero =>
    intro above
    exact absurd (List.length_eq_zero_iff.mp length) above.nonempty
  | succ n ih =>
    intro above there
    have parent := parents lower there
    by_cases same : upper = lower.dropLast
    · rw [same, parent]
    · apply ih lower.dropLast
      · rw [List.length_dropLast, length, Nat.add_sub_cancel]
      · exact ⟨above.dropLast, same⟩
      · rw [parent]; simp

theorem Rooted.below {view : View Name Bytes} (rooted : Rooted view) {upper lower : Path Name}
    (above : Above upper lower) (noDir : view upper ≠ some .dir) : view lower = none := by
  by_contra there
  exact noDir (rooted.above upper lower above there)

variable [DecidableEq Name]

def nodeOf (entries : List (Path Name × Node Bytes)) : View Name Bytes
  | [] => some .dir
  | path => (entries.find? fun entry => decide (entry.1 = path)).map (·.2)

variable (entries : List (Path Name × Node Bytes))

theorem nodeOf_root : nodeOf entries [] = some .dir := by
  rw [nodeOf]

variable {path : Path Name}

theorem nodeOf_find (proper : path ≠ []) :
    nodeOf entries path = (entries.find? fun entry => decide (entry.1 = path)).map (·.2) := by
  unfold nodeOf
  split
  · exact absurd rfl proper
  · rfl

theorem nodeOf_cons (node : Node Bytes) (proper : path ≠ []) (query : Path Name) :
    nodeOf ((path, node) :: entries) query =
      if query = path then some node else nodeOf entries query := by
  by_cases root : query = []
  · rw [root, if_neg (Ne.symm proper), nodeOf_root, nodeOf_root]
  · rw [nodeOf_find _ root, nodeOf_find _ root, List.find?_cons]
    by_cases same : query = path
    · simp [same]
    · simp [same, Ne.symm same]

theorem nodeOf_filter (proper : path ≠ []) (query : Path Name) :
    nodeOf (entries.filter fun entry => decide (entry.1 ≠ path)) query =
      if query = path then none else nodeOf entries query := by
  by_cases root : query = []
  · rw [root, if_neg (Ne.symm proper), nodeOf_root, nodeOf_root]
  · rw [nodeOf_find _ root, nodeOf_find _ root]
    split
    next same =>
      rw [List.find?_eq_none.mpr]
      · rfl
      · intro entry member
        rw [List.mem_filter, decide_eq_true_eq] at member
        rw [same, decide_eq_true_eq]
        exact member.2
    next other =>
      induction entries with
      | nil => rfl
      | cons entry rest ih =>
        by_cases here : entry.1 = path
        · rw [List.filter_cons_of_neg (by simp [here]), ih,
            List.find?_cons_of_neg (by simp [here, Ne.symm other])]
        · rw [List.filter_cons_of_pos (by simp [here])]
          by_cases found : entry.1 = query
          · rw [List.find?_cons_of_pos (by simp [found]), List.find?_cons_of_pos (by simp [found])]
          · rw [List.find?_cons_of_neg (by simp [found]), List.find?_cons_of_neg (by simp [found]),
              ih]

theorem nodeOf_mem {entries : List (Path Name × Node Bytes)} {node : Node Bytes}
    (proper : path ≠ []) (there : nodeOf entries path = some node) : (path, node) ∈ entries := by
  rw [nodeOf_find _ proper, Option.map_eq_some_iff] at there
  obtain ⟨entry, found, rfl⟩ := there
  have member := List.mem_of_find?_eq_some found
  have same := List.find?_some found
  rw [decide_eq_true_eq] at same
  rw [← same]
  exact member

theorem nodeOf_of_mem {entries : List (Path Name × Node Bytes)} {entry : Path Name × Node Bytes}
    (member : entry ∈ entries) : nodeOf entries entry.1 ≠ none := by
  by_cases root : entry.1 = []
  · rw [root, nodeOf_root]; simp
  · rw [nodeOf_find _ root]
    intro missing
    rw [Option.map_eq_none_iff, List.find?_eq_none] at missing
    exact missing entry member (by simp)

end FileTree

structure FileTree (Name : Type u) (Bytes : Type v) [DecidableEq Name] where
  entries : List (Path Name × Node Bytes)
  parents : ∀ entry ∈ entries, FileTree.nodeOf entries entry.1.dropLast = some .dir

namespace FileTree

variable {Name : Type u} {Bytes : Type v} [DecidableEq Name]

def node (tree : FileTree Name Bytes) : View Name Bytes := nodeOf tree.entries

variable (tree : FileTree Name Bytes)

@[simp] theorem node_root : tree.node [] = some .dir :=
  nodeOf_root tree.entries

theorem rooted : Rooted tree.node := by
  apply Rooted.of_parents tree.node_root
  intro path there
  by_cases root : path = []
  · rw [root]; exact tree.node_root
  · obtain ⟨node, is⟩ := Option.ne_none_iff_exists'.mp there
    exact tree.parents (path, node) (nodeOf_mem root is)

def below (tree : FileTree Name Bytes) (path : Path Name) : List (Path Name) :=
  (tree.entries.map (·.1)).filter fun lower => decide (Above path lower)

theorem mem_below (path lower : Path Name) :
    lower ∈ tree.below path ↔ Above path lower ∧ tree.node lower ≠ none := by
  unfold below
  rw [List.mem_filter, decide_eq_true_eq, List.mem_map]
  constructor
  · rintro ⟨⟨entry, member, rfl⟩, above⟩
    exact ⟨above, nodeOf_of_mem member⟩
  · intro both
    obtain ⟨node, is⟩ := Option.ne_none_iff_exists'.mp both.2
    exact ⟨⟨(lower, node), nodeOf_mem both.1.nonempty is, rfl⟩, both.1⟩

theorem below_leaf {path : Path Name} (leaf : tree.node path ≠ some .dir) :
    tree.below path = [] := by
  rw [List.eq_nil_iff_forall_not_mem]
  intro lower member
  obtain ⟨above, there⟩ := (mem_below tree path lower).mp member
  exact leaf (tree.rooted.above path lower above there)

section Operations

def put (tree : FileTree Name Bytes) (path : Path Name) (node : Node Bytes)
    (parent : tree.node path.dropLast = some .dir) (leaf : tree.node path ≠ some .dir) :
    FileTree Name Bytes where
  entries := (path, node) :: tree.entries
  parents := by
    have proper : path ≠ [] := by
      intro root
      rw [root] at leaf
      exact leaf tree.node_root
    intro entry member
    rw [nodeOf_cons _ _ proper]
    cases List.mem_cons.mp member with
    | inl here =>
      rw [here, if_neg (above_dropLast proper).2]
      exact parent
    | inr old =>
      split
      next same =>
        have dir := tree.parents entry old
        rw [same] at dir
        exact absurd dir leaf
      · exact tree.parents entry old

def erase (tree : FileTree Name Bytes) (path : Path Name) (proper : path ≠ [])
    (empty : tree.below path = []) : FileTree Name Bytes where
  entries := tree.entries.filter fun entry => decide (entry.1 ≠ path)
  parents := by
    intro entry member
    have kept := List.mem_filter.mp member
    rw [nodeOf_filter _ proper, if_neg]
    · exact tree.parents entry kept.1
    · intro same
      by_cases root : entry.1 = []
      · rw [root] at same
        exact proper same.symm
      · have inside : entry.1 ∈ tree.below path := by
          rw [mem_below]
          refine ⟨?_, nodeOf_of_mem kept.1⟩
          rw [← same]
          exact above_dropLast root
        rw [empty] at inside
        cases inside

variable (tree : FileTree Name Bytes)

variable (path : Path Name)

theorem put_node (node : Node Bytes) (parent : tree.node path.dropLast = some .dir)
    (leaf : tree.node path ≠ some .dir) (query : Path Name) :
    (tree.put path node parent leaf).node query =
      if query = path then some node else tree.node query := by
  apply nodeOf_cons
  intro root
  rw [root] at leaf
  exact leaf tree.node_root

theorem erase_node (proper : path ≠ []) (empty : tree.below path = []) (query : Path Name) :
    (tree.erase path proper empty).node query =
      if query = path then none else tree.node query :=
  nodeOf_filter tree.entries proper query

variable [DecidableEq Bytes]

def makeDir (tree : FileTree Name Bytes) (path : Path Name) : Option (FileTree Name Bytes) :=
  if parent : tree.node path.dropLast = some .dir then
    if missing : tree.node path = none then
      some (tree.put path .dir parent (by rw [missing]; simp))
    else none
  else none

def makeDirs (tree : FileTree Name Bytes) (path : Path Name) : Option (FileTree Name Bytes) :=
  path.inits.foldlM (fun tree upper =>
    if tree.node upper = some .dir then some tree else tree.makeDir upper) tree

def writeFile (tree : FileTree Name Bytes) (path : Path Name) (bytes : Bytes) :
    Option (FileTree Name Bytes) :=
  if parent : tree.node path.dropLast = some .dir then
    if leaf : tree.node path ≠ some .dir then some (tree.put path (.file bytes) parent leaf)
    else none
  else none

def unlink (tree : FileTree Name Bytes) (path : Path Name) : Option (FileTree Name Bytes) :=
  if file : path ≠ [] ∧ tree.below path = [] ∧ tree.node path ≠ none ∧
      tree.node path ≠ some .dir then
    some (tree.erase path file.1 file.2.1)
  else none

def removeDir (tree : FileTree Name Bytes) (path : Path Name) : Option (FileTree Name Bytes) :=
  if empty : path ≠ [] ∧ tree.below path = [] ∧ tree.node path = some .dir then
    some (tree.erase path empty.1 empty.2.1)
  else none

theorem writeFile_spec (bytes : Bytes) (parent : tree.node path.dropLast = some .dir)
    (leaf : tree.node path ≠ some .dir) :
    ∃ after, tree.writeFile path bytes = some after ∧
      ∀ query, after.node query = if query = path then some (.file bytes) else tree.node query := by
  refine ⟨tree.put path (.file bytes) parent leaf, ?_, put_node tree path _ parent leaf⟩
  unfold writeFile
  rw [dif_pos parent, dif_pos leaf]

theorem unlink_spec (there : tree.node path ≠ none) (leaf : tree.node path ≠ some .dir) :
    ∃ after, tree.unlink path = some after ∧
      ∀ query, after.node query = if query = path then none else tree.node query := by
  have proper : path ≠ [] := by
    intro root
    rw [root] at leaf
    exact leaf tree.node_root
  have empty := tree.below_leaf leaf
  refine ⟨tree.erase path proper empty, ?_, erase_node tree path proper empty⟩
  unfold unlink
  rw [dif_pos ⟨proper, empty, there, leaf⟩]

theorem removeDir_spec (proper : path ≠ []) (dir : tree.node path = some .dir)
    (empty : tree.below path = []) :
    ∃ after, tree.removeDir path = some after ∧
      ∀ query, after.node query = if query = path then none else tree.node query := by
  refine ⟨tree.erase path proper empty, ?_, erase_node tree path proper empty⟩
  unfold removeDir
  rw [dif_pos ⟨proper, empty, dir⟩]

theorem removeDir_full (full : tree.below path ≠ []) :
    tree.removeDir path = none := by
  unfold removeDir
  rw [dif_neg fun empty => full empty.2.1]

theorem writeFile_dir (bytes : Bytes) (dir : tree.node path = some .dir) :
    tree.writeFile path bytes = none := by
  unfold writeFile
  split
  · rw [dif_neg (by simp [dir])]
  · rfl

theorem makeDirs_concat (upper : Path Name) (name : Name) :
    tree.makeDirs (upper ++ [name]) =
      (tree.makeDirs upper).bind fun tree =>
        if tree.node (upper ++ [name]) = some .dir then some tree
        else tree.makeDir (upper ++ [name]) := by
  have inits : (upper ++ [name]).inits = upper.inits ++ [upper ++ [name]] := by
    rw [List.inits_append]
    simp
  unfold makeDirs
  rw [inits, List.foldlM_append]
  simp

omit [DecidableEq Name] in
theorem not_concat_prefix (upper : Path Name) (name : Name) : ¬ (upper ++ [name]) <+: upper := by
  intro within
  have length := within.length_le
  rw [List.length_append, List.length_singleton] at length
  omega

theorem makeDirs_spec
    (clear : ∀ upper, upper <+: path → tree.node upper = none ∨ tree.node upper = some .dir) :
    ∃ after, tree.makeDirs path = some after ∧
      ∀ query, after.node query = if query <+: path then some .dir else tree.node query := by
  induction path using List.reverseRecOn with
  | nil =>
    refine ⟨tree, ?_, ?_⟩
    · simp [makeDirs]
    · intro query
      split
      next within => rw [List.prefix_nil.mp within, node_root]
      · rfl
  | append_singleton upper name ih =>
    obtain ⟨before, made, are⟩ := ih fun query within =>
      clear query (within.trans (List.prefix_append upper [name]))
    have parent : before.node (upper ++ [name]).dropLast = some .dir := by
      rw [List.dropLast_concat, are, if_pos (List.prefix_refl upper)]
    have longer := not_concat_prefix upper name
    have here := are (upper ++ [name])
    rw [if_neg longer] at here
    rw [makeDirs_concat, made, Option.bind_some]
    have within : ∀ query, query <+: upper ++ [name] ↔ query <+: upper ∨ query = upper ++ [name] :=
      fun query => by rw [List.prefix_concat_iff, or_comm]
    cases clear (upper ++ [name]) (List.prefix_refl _) with
    | inl missing =>
      rw [missing] at here
      rw [if_neg (by rw [here]; simp)]
      unfold makeDir
      rw [dif_pos parent, dif_pos here]
      refine ⟨_, rfl, ?_⟩
      intro query
      rw [put_node, are]
      simp only [within]
      split <;> simp_all
    | inr dir =>
      rw [dir] at here
      rw [if_pos here]
      refine ⟨before, rfl, ?_⟩
      intro query
      rw [are]
      simp only [within]
      by_cases same : query = upper ++ [name]
      · rw [same, if_neg longer, dir, if_pos (.inr rfl)]
      · simp [same]

theorem makeDirs_blocked
    (blocked : ¬ ∀ upper, upper <+: path → tree.node upper = none ∨ tree.node upper = some .dir) :
    tree.makeDirs path = none := by
  induction path using List.reverseRecOn with
  | nil =>
    refine absurd ?_ blocked
    intro upper within
    rw [List.prefix_nil.mp within]
    exact .inr tree.node_root
  | append_singleton upper name ih =>
    rw [makeDirs_concat]
    by_cases clear : ∀ query, query <+: upper → tree.node query = none ∨ tree.node query = some .dir
    · obtain ⟨before, made, are⟩ := tree.makeDirs_spec upper clear
      have here := are (upper ++ [name])
      have longer := not_concat_prefix upper name
      rw [if_neg longer] at here
      have file : ¬ (tree.node (upper ++ [name]) = none ∨
          tree.node (upper ++ [name]) = some .dir) := by
        intro free
        apply blocked
        intro query within
        cases List.prefix_concat_iff.mp within with
        | inl same => rw [same]; exact free
        | inr above => exact clear query above
      rw [← here, not_or] at file
      rw [made, Option.bind_some, if_neg file.2]
      unfold makeDir
      split
      · rw [dif_neg file.1]
      · rfl
    · rw [ih clear, Option.bind_none]

end Operations

end FileTree

end Library
