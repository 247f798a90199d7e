import Mathlib.Data.List.Basic
import Mathlib.Data.List.Induction
import TransferRegistry.Storage.FileTree

/-!
# Reading after a change

* `Aside`: a path that is neither another one nor on the way to it; what is put there or taken away from there does
  not change what is read at the other (`read_of_aside`).
* `read_insert`: what was put at a path is read there; `eq_of_write` and `eq_of_rename`: the trees after a change.
* `Rooted`: whatever there is, is in a directory, as every change leaves it (`Rooted.write`, `Rooted.rename`,
  `Rooted.createDirectories`). Then what was written is read (`Rooted.read_of_write`).
-/

namespace TransferRegistry

/-- The first path is neither the second nor on the way to it. -/
def FilePath.Aside (changed path : FilePath) : Prop := changed ≠ path ∧ path.length ≤ changed.length

namespace FileTree

open FilePath (Aside)

section

variable {t t' : FileTree} {changed path : FilePath}

/-- What is on the way to a path is shorter than the path that changed. -/
theorem blocked_congr (hlength : path.length ≤ changed.length)
    (h : ∀ other, changed ≠ other → t'.nodes[other]? = t.nodes[other]?) : t'.blocked path = t.blocked path := by
  rw [blocked, blocked, Bool.eq_iff_iff, List.any_eq_true, List.any_eq_true]
  refine exists_congr fun n => and_congr_right fun hn => ?_
  have hne : changed ≠ path.take n := by
    rintro rfl
    rw [List.length_take] at hlength
    have := List.mem_range.1 hn
    omega
  rw [content?, content?, node?, node?, h _ hne]

/-- Trees that differ at one path alone are read alike aside from it. -/
theorem read_of_aside (hpath : Aside changed path)
    (h : ∀ other, changed ≠ other → t'.nodes[other]? = t.nodes[other]?) : t'.read path = t.read path := by
  rw [read, read, blocked_congr hpath.2 h, node?, node?, h path hpath.1]

theorem getElem?_insert_of_ne (nodes : Std.ExtTreeMap FilePath FileNode) (node : FileNode) {other : FilePath}
    (h : changed ≠ other) : (nodes.insert changed node)[other]? = nodes[other]? := by
  rw [Std.ExtTreeMap.getElem?_insert, if_neg (by rwa [Std.compare_eq_iff_eq])]

theorem getElem?_erase_of_ne (nodes : Std.ExtTreeMap FilePath FileNode) {other : FilePath} (h : changed ≠ other) :
    (nodes.erase changed)[other]? = nodes[other]? := by
  rw [Std.ExtTreeMap.getElem?_erase, if_neg (by rwa [Std.compare_eq_iff_eq])]

theorem read_insert_of_aside (hpath : Aside changed path) (node : FileNode) :
    (FileTree.mk (t.nodes.insert changed node)).read path = t.read path :=
  read_of_aside hpath fun _ ho => getElem?_insert_of_ne t.nodes node ho

theorem read_erase_of_aside (hpath : Aside changed path) :
    (FileTree.mk (t.nodes.erase changed)).read path = t.read path :=
  read_of_aside hpath fun _ ho => getElem?_erase_of_ne t.nodes ho

/-- What is put at a path that can be read is read there. -/
theorem read_insert (hne : path ≠ []) (h : t.read path ≠ .error .other) (content : Crypto.Bytes) :
    (FileTree.mk (t.nodes.insert path (.file content))).read path = .ok content := by
  have hblocked : (FileTree.mk (t.nodes.insert path (.file content))).blocked path = t.blocked path :=
    blocked_congr (Nat.le_refl _) fun _ ho => getElem?_insert_of_ne t.nodes _ ho
  rw [read] at h ⊢
  rw [hblocked, node?, if_neg hne, Std.ExtTreeMap.getElem?_insert_self]
  split
  · rename_i hother
    rw [if_pos hother] at h
    exact absurd rfl h
  · rfl

theorem eq_of_write {content : Crypto.Bytes} (h : t.write path content = .ok t') :
    t' = ⟨t.nodes.insert path (.file content)⟩ := by
  rw [write] at h
  split at h
  · exact (Except.ok.inj h).symm
  · cases h

theorem eq_of_rename {source : FilePath} (h : t.rename source path = .ok t') :
    ∃ content, t.content? source = some content ∧
      t' = ⟨(t.nodes.erase source).insert path (.file content)⟩ := by
  rw [rename] at h
  split at h
  · rename_i content hcontent
    split at h
    · exact ⟨content, hcontent, (Except.ok.inj h).symm⟩
    · cases h
  · cases h

end

/-! ## Rooted files -/

/-- Whatever there is, is in a directory. -/
def Rooted (t : FileTree) : Prop :=
  ∀ path node, path ≠ [] → t.node? path = some node → t.node? path.dropLast = some .directory

theorem rooted_empty : Rooted ∅ := by
  intro path node hne hnode
  have hnone : (∅ : FileTree).nodes[path]? = none := Std.ExtTreeMap.getElem?_empty
  rw [node?, if_neg hne, hnone] at hnode
  cases hnode

variable {t t' : FileTree} {path : FilePath} {content : Crypto.Bytes}

theorem Rooted.node?_take (h : t.Rooted) (hpath : t.node? path = some .directory) (n : Nat) :
    t.node? (path.take n) = some .directory := by
  induction path using List.reverseRecOn with
  | nil => rw [List.take_nil]; exact hpath
  | append_singleton path name ih =>
    have hparent := h _ _ (by simp) hpath
    rw [List.dropLast_concat] at hparent
    by_cases hn : n ≤ path.length
    · rw [List.take_append_of_le_length hn]
      exact ih hparent
    · rw [List.take_of_length_le (by simp; omega)]
      exact hpath

/-- No file is on the way to what is in a directory. -/
theorem Rooted.blocked_eq_false (h : t.Rooted) (hparent : t.node? path.dropLast = some .directory) :
    t.blocked path = false := by
  rw [blocked, List.any_eq_false]
  intro n hn
  have hlt := List.mem_range.1 hn
  have htake : path.take n = path.dropLast.take n := by
    rw [List.dropLast_eq_take, List.take_take, Nat.min_eq_left (by omega)]
  rw [content?, htake, h.node?_take hparent n]
  exact Bool.false_ne_true

theorem ne_nil_of_takesFile (h : t.takesFile path = true) : path ≠ [] := by
  rintro rfl
  simp [takesFile, node?] at h

theorem takesFile_iff : t.takesFile path = true ↔
    FilePath.valid path = true ∧ t.node? path.dropLast = some .directory ∧ t.node? path ≠ some .directory := by
  simp only [takesFile, Bool.and_eq_true, decide_eq_true_eq, and_assoc]

theorem takesFile_of_write (h : t.write path content = .ok t') : t.takesFile path = true := by
  rw [write] at h
  split at h
  · assumption
  · cases h

theorem node?_of_content? (h : t.content? path = some content) : t.node? path = some (.file content) := by
  unfold content? at h
  split at h
  · rename_i hnode
    rw [hnode, Option.some.inj h]
  · cases h

/-- What was written is read. -/
theorem Rooted.read_of_write (h : t.Rooted) (hwrite : t.write path content = .ok t') : t'.read path = .ok content := by
  have htakes := takesFile_of_write hwrite
  obtain ⟨hvalid, hparent, hnode⟩ := takesFile_iff.1 htakes
  have hread : t.read path ≠ .error .other := by
    rw [read, hvalid, h.blocked_eq_false hparent]
    simp only [Bool.not_true, Bool.or_self, Bool.false_eq_true, if_false]
    split
    · exact nofun
    · rename_i hdirectory
      exact absurd hdirectory hnode
    · exact nofun
  rw [eq_of_write hwrite]
  exact read_insert (ne_nil_of_takesFile htakes) hread content

/-- A change of the files that keeps directories and puts what is new into one. -/
theorem Rooted.of_change (h : t.Rooted)
    (hkeep : ∀ other, t.node? other = some .directory → t'.node? other = some .directory)
    (hnew : ∀ other node, other ≠ [] → t'.node? other = some node →
      t.node? other = some node ∨ t'.node? other.dropLast = some .directory) : t'.Rooted := by
  intro other node hne hnode
  rcases hnew other node hne hnode with hold | hparent
  · exact hkeep _ (h other node hne hold)
  · exact hparent

theorem node?_insert (nodes : Std.ExtTreeMap FilePath FileNode) (hne : path ≠ []) (node : FileNode) (other : FilePath) :
    (FileTree.mk (nodes.insert path node)).node? other =
      if path = other then some node else (FileTree.mk nodes).node? other := by
  unfold node?
  by_cases hpath : path = other
  · rw [if_pos hpath, ← hpath, if_neg hne, Std.ExtTreeMap.getElem?_insert_self]
  · rw [if_neg hpath, getElem?_insert_of_ne nodes node hpath]

/-- What is put into a directory, and takes the place of no directory unless it is one. -/
theorem Rooted.insert (h : t.Rooted) {node : FileNode} (hne : path ≠ [])
    (hparent : t.node? path.dropLast = some .directory)
    (hpath : t.node? path = some .directory → node = .directory) : (FileTree.mk (t.nodes.insert path node)).Rooted := by
  have hkeep : ∀ other, t.node? other = some .directory →
      (FileTree.mk (t.nodes.insert path node)).node? other = some .directory := by
    intro other hother
    rw [node?_insert _ hne]
    split
    · rename_i heq
      rw [hpath (heq ▸ hother)]
    · exact hother
  refine h.of_change hkeep ?_
  intro other found _ hfound
  rw [node?_insert _ hne] at hfound
  split at hfound
  · rename_i hother
    exact Or.inr (hother ▸ hkeep _ hparent)
  · exact Or.inl hfound

theorem Rooted.put (h : t.Rooted) (htakes : t.takesFile path = true) :
    (FileTree.mk (t.nodes.insert path (.file content))).Rooted := by
  obtain ⟨-, hparent, hpath⟩ := takesFile_iff.1 htakes
  exact h.insert (ne_nil_of_takesFile htakes) hparent fun hdirectory => absurd hdirectory hpath

theorem node?_erase (nodes : Std.ExtTreeMap FilePath FileNode) (hne : path ≠ []) (other : FilePath) :
    (FileTree.mk (nodes.erase path)).node? other = if path = other then none else (FileTree.mk nodes).node? other := by
  unfold node?
  by_cases hpath : path = other
  · rw [if_pos hpath, ← hpath, if_neg hne, Std.ExtTreeMap.getElem?_erase_self]
  · rw [if_neg hpath, getElem?_erase_of_ne nodes hpath]

/-- Nothing is below a file. -/
theorem Rooted.erase (h : t.Rooted) (hpath : t.node? path = some (.file content)) :
    (FileTree.mk (t.nodes.erase path)).Rooted := by
  have hne : path ≠ [] := by
    rintro rfl
    cases hpath
  refine h.of_change ?_ ?_
  · intro other hother
    have hdiffer : path ≠ other := by
      rintro rfl
      cases hpath.symm.trans hother
    rw [node?_erase _ hne, if_neg hdiffer]
    exact hother
  · intro other node _ hnode
    rw [node?_erase _ hne] at hnode
    split at hnode
    · cases hnode
    · exact Or.inl hnode

theorem Rooted.write (h : t.Rooted) (hwrite : t.write path content = .ok t') : t'.Rooted := by
  rw [eq_of_write hwrite]
  exact h.put (takesFile_of_write hwrite)

theorem Rooted.rename {source : FilePath} (h : t.Rooted) (hrename : t.rename source path = .ok t') : t'.Rooted := by
  unfold FileTree.rename at hrename
  split at hrename
  · rename_i content hcontent
    split at hrename
    · rename_i htakes
      obtain rfl := Except.ok.inj hrename
      have hsource := node?_of_content? hcontent
      have hne : source ≠ [] := by
        rintro rfl
        cases hsource
      obtain ⟨hvalid, hparent, hpath⟩ := takesFile_iff.1 htakes
      apply (h.erase hsource).put
      rw [takesFile_iff]
      refine ⟨hvalid, ?_, ?_⟩
      · have hdiffer : source ≠ path.dropLast := by
          rintro rfl
          cases hsource.symm.trans hparent
        rw [node?_erase _ hne, if_neg hdiffer]
        exact hparent
      · rw [node?_erase _ hne]
        split
        · exact nofun
        · exact hpath
    · cases hrename
  · cases hrename

/-- The directories on the way to a path are made one in the other. -/
theorem Rooted.insert_take (h : t.Rooted) {n : Nat} (hn : n ≤ path.length) :
    let made := FileTree.mk ((List.range n).foldl (fun nodes k => nodes.insert (path.take (k + 1)) .directory) t.nodes)
    made.Rooted ∧ made.node? (path.take n) = some .directory := by
  induction n with
  | zero => exact ⟨h, rfl⟩
  | succ n ih =>
    obtain ⟨hrooted, hparent⟩ := ih (by omega)
    have hne : path.take (n + 1) ≠ [] := by
      rw [ne_eq, ← List.length_eq_zero_iff, List.length_take]
      omega
    have hdropLast : (path.take (n + 1)).dropLast = path.take n := by
      rw [List.dropLast_eq_take, List.length_take, List.take_take]
      exact congrArg path.take (by omega)
    simp only [List.range_succ, List.foldl_append, List.foldl_cons, List.foldl_nil]
    refine ⟨hrooted.insert hne (hdropLast ▸ hparent) fun _ => rfl, ?_⟩
    rw [node?_insert _ hne, if_pos rfl]

theorem Rooted.createDirectories (h : t.Rooted) (hcreate : t.createDirectories path = .ok t') : t'.Rooted := by
  unfold FileTree.createDirectories at hcreate
  split at hcreate
  · cases hcreate
  · obtain rfl := Except.ok.inj hcreate
    exact (h.insert_take (Nat.le_refl path.length)).1

end FileTree

end TransferRegistry
