import Mathlib.Data.List.Infix
import Mathlib.Data.List.Nodup

set_option relaxedAutoImplicit false
set_option autoImplicit false

/-!
# Permissions of an update

The release tools describe the files of an update as a tree of items, each with its owner, its
group and its mode. `Item.SetPermissions` writes the commands that give them to the files: a whole
subtree gets the setting that most of it needs, and what differs from the setting that it has
inherited gets a command of its own.

The order in which Python goes through a dictionary is a parameter; nothing is assumed of it.

## Main definitions

* `Release.Item` — the tree; `Release.Item.nodes` are its files and directories.
* `Release.Item.best_subtree` — the setting of a subtree, by `CountChildMetadata`.
* `Release.recurse`, `Release.SetPermissions` — the commands.
* `Release.exec` — what a command does to the permissions of all paths.

## Main results

* `Release.recurse_spec` — the commands of an item set its subtree, and nothing else.
* `Release.setPermissions_sets` — so do those of the whole tree.
-/

namespace Release

/-- The path of a file, as the names on the way to it. -/
abbrev Path := List String

/-- The owner, the group and the mode of a file. -/
structure Perm where
  uid : ℕ
  gid : ℕ
  mode : ℕ
  deriving DecidableEq, Repr

/-- `Item`, a file or a directory. Its name is the last one of its path. -/
inductive Item
  | file (name : String) (perm : Perm)
  | dir (name : String) (perm : Perm) (children : List Item)

namespace Item

/-- The last name of the path. -/
def name : Item → String
  | file name _ => name
  | dir name _ _ => name

/-- The item's own permissions. -/
def perm : Item → Perm
  | file _ perm => perm
  | dir _ perm _ => perm

/-- `dir`. -/
def isDir : Item → Bool
  | file _ _ => false
  | dir _ _ _ => true

end Item

/-- A file or a directory of a tree. -/
structure Node where
  path : Path
  dir : Bool
  perm : Perm

mutual

/-- The files and directories of an item in a directory. -/
def Item.nodes (parent : Path) : Item → List Node
  | .file name perm => [⟨parent ++ [name], false, perm⟩]
  | .dir name perm children =>
    ⟨parent ++ [name], true, perm⟩ :: nodesAll (parent ++ [name]) children

/-- Those of several items. -/
def nodesAll (parent : Path) : List Item → List Node
  | [] => []
  | item :: items => item.nodes parent ++ nodesAll parent items

end

mutual

/-- No two items of a directory have the same name. -/
def Item.Distinct : Item → Prop
  | .file _ _ => True
  | .dir _ _ children => DistinctAll children

/-- No two of these items have the same name, and none of the items below them. -/
def DistinctAll : List Item → Prop
  | [] => True
  | item :: items => (∀ i ∈ items, item.name ≠ i.name) ∧ item.Distinct ∧ DistinctAll items

end

/-! ### Counting -/

/-- The keys that are counted: owner, group, and the mode of a directory or of a file. -/
abbrev Key := ℕ × ℕ × Option ℕ × Option ℕ

/-- A dictionary of numbers. -/
abbrev Dict (κ : Type) := List (κ × ℕ)

/-- `d[k] = d.get(k, 0) + v`. -/
def bump {κ : Type} [DecidableEq κ] (k : κ) (v : ℕ) : Dict κ → Dict κ
  | [] => [(k, v)]
  | e :: d => if e.1 = k then (k, e.2 + v) :: d else e :: bump k v d

/-- `MostPopularKey`, for pairs of numbers: the last of the counts in their order. -/
def MostPopularKey (d : Dict (ℕ × ℕ)) (default : ℕ × ℕ) : ℕ × ℕ :=
  let before := fun a b : ℕ × ℕ × ℕ =>
    decide (a.1 < b.1 ∨ a.1 = b.1 ∧ (a.2.1 < b.2.1 ∨ a.2.1 = b.2.1 ∧ a.2.2 ≤ b.2.2))
  (((d.map Prod.swap).mergeSort before).getLast?.map Prod.snd).getD default

variable (iteritems : Dict Key → Dict Key)

mutual

/-- `CountChildMetadata`, up to what it stores. It is called for directories only. -/
def Item.CountChildMetadata : Item → Dict Key
  | .file _ _ => []
  | .dir _ perm children => countChildren children [((perm.uid, perm.gid, some perm.mode, none), 1)]

/-- The loop over the children. -/
def countChildren : List Item → Dict Key → Dict Key
  | [], d => d
  | i :: children, d =>
    countChildren children
      (if i.isDir then (iteritems i.CountChildMetadata).foldl (fun d e => bump e.1 e.2 d) d
      else bump (i.perm.uid, i.perm.gid, none, some i.perm.mode) 1 d)

end

/-- What a subtree is set to. -/
structure Setting where
  uid : ℕ
  gid : ℕ
  dmode : ℕ
  fmode : ℕ
  deriving DecidableEq, Repr

/-- A count and a mode, or the ones of a key if they are not fewer. -/
def better (best : ℕ × ℕ) (count : ℕ) : Option ℕ → ℕ × ℕ
  | some mode => if best.1 ≤ count then (count, mode) else best
  | none => best

/-- `best_subtree`. -/
def Item.best_subtree (item : Item) : Setting :=
  let d := item.CountChildMetadata iteritems
  let ug := MostPopularKey
    ((iteritems d).foldl (fun ug e => bump (e.1.1, e.1.2.1) e.2 ug) []) (0, 0)
  let best := (iteritems d).foldl
    (fun (best : (ℕ × ℕ) × ℕ × ℕ) e =>
      if (e.1.1, e.1.2.1) = ug then (better best.1 e.2 e.1.2.2.1, better best.2 e.2 e.1.2.2.2)
      else best)
    ((0, 0o755), (0, 0o644))
  ⟨ug.1, ug.2, best.1.2, best.2.2⟩

/-! ### Commands -/

/-- The commands of the update script. -/
inductive Command
  | set_perm (uid gid mode : ℕ) (path : Path)
  | set_perm_recursive (uid gid dmode fmode : ℕ) (path : Path)
  deriving DecidableEq, Repr

/-- `SetPermissions` of the script, for an item's own permissions. -/
def ownCommand (path : Path) (perm : Perm) : Command :=
  .set_perm perm.uid perm.gid perm.mode path

/-- `SetPermissionsRecursive` of the script. -/
def subtreeCommand (path : Path) (s : Setting) : Command :=
  .set_perm_recursive s.uid s.gid s.dmode s.fmode path

/-- What a file or a directory gets from a setting of a subtree. -/
def Setting.at (s : Setting) (dir : Bool) : Perm := ⟨s.uid, s.gid, if dir then s.dmode else s.fmode⟩

mutual

/-- `recurse`. The current setting is `none` at first, which stands for `(-1, -1, -1, -1)`. -/
def recurse (parent : Path) : Item → Option Setting → List Command
  | .dir name perm children, current =>
    let path := parent ++ [name]
    let best := (Item.dir name perm children).best_subtree iteritems
    (if current ≠ some best then [subtreeCommand path best] else []) ++
      (if perm ≠ best.at true then [ownCommand path perm] else []) ++
      recurseAll path children (some best)
  | .file name perm, current =>
    if current.map (·.at false) ≠ some perm then [ownCommand (parent ++ [name]) perm] else []

/-- The loop over the children. -/
def recurseAll (parent : Path) : List Item → Option Setting → List Command
  | [], _ => []
  | item :: items, current => recurse parent item current ++ recurseAll parent items current

end

/-- `Item.SetPermissions`. It asserts that the item is a directory. -/
def SetPermissions (parent : Path) (item : Item) : Option (List Command) :=
  if item.isDir then some (recurse iteritems parent item none) else none

/-- The permissions of all paths after a command. A directory is known by its path. -/
def exec (isDir : Path → Bool) (fs : Path → Perm) : Command → Path → Perm
  | .set_perm uid gid mode path, p => if p = path then ⟨uid, gid, mode⟩ else fs p
  | .set_perm_recursive uid gid dmode fmode path, p =>
    if path.isPrefixOf p then ⟨uid, gid, if isDir p then dmode else fmode⟩ else fs p

/-- The permissions after a list of commands, executed in order. -/
def run (isDir : Path → Bool) (commands : List Command) (fs : Path → Perm) : Path → Perm :=
  commands.foldl (exec isDir) fs

/-- The paths of an item exist, as the files and directories that they are in the tree. -/
def Item.Present (isDir : Path → Bool) (parent : Path) (item : Item) : Prop :=
  ∀ n ∈ item.nodes parent, isDir n.path = n.dir

section Execution

variable (isDir : Path → Bool)

@[simp]
lemma run_nil (fs : Path → Perm) : run isDir [] fs = fs := rfl

/-- The commands of two lists are executed one list after the other. -/
@[simp]
lemma run_append (c₁ c₂ : List Command) (fs : Path → Perm) :
    run isDir (c₁ ++ c₂) fs = run isDir c₂ (run isDir c₁ fs) := by
  unfold run
  rw [List.foldl_append]

/-- What a path has after the commands depends on nothing but what it had before. -/
lemma run_congr (commands : List Command) {fs fs' : Path → Perm} {p : Path} (h : fs p = fs' p) :
    run isDir commands fs p = run isDir commands fs' p := by
  induction commands generalizing fs fs' with
  | nil => exact h
  | cons c commands ih =>
    refine ih ?_
    cases c with
    | set_perm uid gid mode path =>
      rw [exec, exec]
      exact if_congr .rfl rfl h
    | set_perm_recursive uid gid dmode fmode path =>
      rw [exec, exec]
      exact if_congr .rfl rfl h

/-- The command of a subtree sets what lies below its path. -/
lemma run_subtreeCommand_below {path p : Path} (s : Setting) (fs : Path → Perm)
    (h : path <+: p) : run isDir [subtreeCommand path s] fs p = s.at (isDir p) := by
  have hp : path.isPrefixOf p = true := List.isPrefixOf_iff_prefix.mpr h
  simp [run, subtreeCommand, exec, hp, Setting.at]

/-- It leaves alone what does not. -/
lemma run_subtreeCommand_frame {path p : Path} (s : Setting) (fs : Path → Perm)
    (h : ¬ path <+: p) : run isDir [subtreeCommand path s] fs p = fs p := by
  have hp : ¬ path.isPrefixOf p = true := fun hp => h (List.isPrefixOf_iff_prefix.mp hp)
  simp [run, subtreeCommand, exec, hp]

/-- The command of one path sets that path. -/
lemma run_ownCommand_self (path : Path) (perm : Perm) (fs : Path → Perm) :
    run isDir [ownCommand path perm] fs path = perm := by
  simp [run, ownCommand, exec]

/-- It leaves alone every other path. -/
lemma run_ownCommand_frame {path p : Path} (perm : Perm) (fs : Path → Perm) (h : p ≠ path) :
    run isDir [ownCommand path perm] fs p = fs p := by
  simp [run, ownCommand, exec, h]

end Execution

/-! ### Places in the tree -/

/-- Nothing lies below two entries of one directory. -/
lemma name_unique {parent p : Path} {a b : String} (ha : parent ++ [a] <+: p)
    (hb : parent ++ [b] <+: p) : a = b := by
  have h := List.prefix_of_prefix_length_le ha hb (by simp)
  have h' := (List.prefix_append_right_inj parent).mp h
  simpa using h'

/-- A path below an entry of a directory is not the directory's. -/
lemma ne_of_below {parent p : Path} {a : String} (h : parent ++ [a] <+: p) : p ≠ parent := by
  intro hp
  have hlen := h.length_le
  rw [hp, List.length_append, List.length_singleton] at hlen
  omega

mutual

/-- The files and directories of an item lie below its path. -/
lemma Item.nodes_below (parent : Path) (item : Item) :
    ∀ n ∈ item.nodes parent, parent ++ [item.name] <+: n.path := by
  match item with
  | .file name perm =>
    intro n hn
    simp only [Item.nodes, List.mem_singleton] at hn
    rw [hn]
    exact List.prefix_refl _
  | .dir name perm children =>
    intro n hn
    simp only [Item.nodes, List.mem_cons] at hn
    rcases hn with rfl | hn
    · exact List.prefix_refl _
    · obtain ⟨i, -, hi⟩ := nodesAll_below (parent ++ [name]) children n hn
      exact (List.prefix_append _ _).trans hi

/-- Those of several items lie below the path of one of them. -/
lemma nodesAll_below (parent : Path) (items : List Item) :
    ∀ n ∈ nodesAll parent items, ∃ i ∈ items, parent ++ [i.name] <+: n.path := by
  match items with
  | [] =>
    intro n hn
    simp [nodesAll] at hn
  | item :: items =>
    intro n hn
    simp only [nodesAll, List.mem_append] at hn
    rcases hn with hn | hn
    · exact ⟨item, by simp, item.nodes_below parent n hn⟩
    · obtain ⟨i, hi, hb⟩ := nodesAll_below parent items n hn
      exact ⟨i, by simp [hi], hb⟩

end

/-! ### What the commands name -/

/-- A command that an item may have: its own for any file or directory, and that of a subtree for a
directory. -/
def Node.Allows (P : Command → Prop) (n : Node) : Prop :=
  (∀ perm, P (ownCommand n.path perm)) ∧ (n.dir = true → ∀ s, P (subtreeCommand n.path s))

mutual

/-- The commands of an item are commands for its files and directories. -/
lemma forall_recurse {P : Command → Prop} (parent : Path) (item : Item)
    (current : Option Setting) (h : ∀ n ∈ item.nodes parent, n.Allows P) :
    ∀ c ∈ recurse iteritems parent item current, P c := by
  match item with
  | .file name perm =>
    intro c hc
    have hown := (h ⟨parent ++ [name], false, perm⟩ (by simp [Item.nodes])).1 perm
    rw [recurse] at hc
    split_ifs at hc with hsame
    · rw [List.mem_singleton.mp hc]
      exact hown
    · cases hc
  | .dir name perm children =>
    intro c hc
    have hself := h ⟨parent ++ [name], true, perm⟩ (by simp [Item.nodes])
    rw [recurse, List.mem_append, List.mem_append] at hc
    rcases hc with (hc | hc) | hc
    · split_ifs at hc with hsame
      · rw [List.mem_singleton.mp hc]
        exact hself.2 rfl _
      · cases hc
    · split_ifs at hc with hsame
      · rw [List.mem_singleton.mp hc]
        exact hself.1 perm
      · cases hc
    · exact forall_recurseAll _ children _ (fun n hn => h n (by simp [Item.nodes, hn])) c hc

/-- Those of several items are commands for theirs. -/
lemma forall_recurseAll {P : Command → Prop} (parent : Path) (items : List Item)
    (current : Option Setting) (h : ∀ n ∈ nodesAll parent items, n.Allows P) :
    ∀ c ∈ recurseAll iteritems parent items current, P c := by
  match items with
  | [] =>
    intro c hc
    cases hc
  | item :: items =>
    intro c hc
    rw [recurseAll, List.mem_append] at hc
    rcases hc with hc | hc
    · exact forall_recurse parent item current (fun n hn => h n (by simp [nodesAll, hn])) c hc
    · exact forall_recurseAll parent items current (fun n hn => h n (by simp [nodesAll, hn])) c hc

end

/-! ### What the commands set -/

/-- The first commands of a directory give its setting to everything below it, whether it has
inherited that setting or not. -/
lemma run_inherit (isDir : Path → Bool) (path : Path) (best : Setting) (current : Option Setting)
    (fs : Path → Perm) (hc : ∀ s, current = some s → ∀ p, path <+: p → fs p = s.at (isDir p)) :
    (∀ p, path <+: p →
      run isDir (if current ≠ some best then [subtreeCommand path best] else []) fs p =
        best.at (isDir p)) ∧
    ∀ p, ¬ path <+: p →
      run isDir (if current ≠ some best then [subtreeCommand path best] else []) fs p = fs p := by
  by_cases h : current = some best
  · rw [if_neg (not_not_intro h), run_nil]
    exact ⟨hc best h, fun p _ => rfl⟩
  · rw [if_pos h]
    exact ⟨fun p hp => run_subtreeCommand_below isDir best fs hp,
      fun p hp => run_subtreeCommand_frame isDir best fs hp⟩

/-- The command of a directory's own permissions sets them, whether they differ from those of its
subtree or not. -/
lemma run_own (isDir : Path → Bool) (path : Path) (perm inherited : Perm) (fs : Path → Perm)
    (hi : fs path = inherited) :
    run isDir (if perm ≠ inherited then [ownCommand path perm] else []) fs path = perm ∧
    ∀ p, p ≠ path →
      run isDir (if perm ≠ inherited then [ownCommand path perm] else []) fs p = fs p := by
  by_cases h : perm = inherited
  · rw [if_neg (not_not_intro h), run_nil]
    exact ⟨hi.trans h.symm, fun p _ => rfl⟩
  · rw [if_pos h]
    exact ⟨run_ownCommand_self isDir path perm fs,
      fun p hp => run_ownCommand_frame isDir perm fs hp⟩

mutual

/-- **The commands of an item set its subtree.** If everything below its path has the current
setting, then after `recurse` each of its files and directories has its own permissions, and what
does not lie below its path is as it was.

**Proof sketch.** By induction on the tree. The setting of a directory is the current one of its
children: it is what everything below the directory has after the directory's first command, or
what it has inherited when that command is left out. -/
theorem recurse_spec (isDir : Path → Bool) (parent : Path) (item : Item)
    (current : Option Setting) (fs : Path → Perm) (hd : item.Distinct)
    (hp : item.Present isDir parent)
    (hc : ∀ s, current = some s → ∀ p, parent ++ [item.name] <+: p → fs p = s.at (isDir p)) :
    (∀ n ∈ item.nodes parent,
      run isDir (recurse iteritems parent item current) fs n.path = n.perm) ∧
    ∀ p, ¬ parent ++ [item.name] <+: p →
      run isDir (recurse iteritems parent item current) fs p = fs p := by
  match item with
  | .file name perm =>
    have hfile : isDir (parent ++ [name]) = false := hp ⟨_, false, perm⟩ (by simp [Item.nodes])
    have hframe : ∀ p, ¬ parent ++ [name] <+: p → p ≠ parent ++ [name] :=
      fun p h hne => h (hne ▸ List.prefix_refl _)
    simp only [Item.nodes, List.mem_singleton, forall_eq, recurse, Item.name] at hc ⊢
    by_cases h : current.map (·.at false) = some perm
    · -- the file has inherited its permissions
      obtain ⟨s, hs, hat⟩ := Option.map_eq_some_iff.mp h
      rw [if_neg (not_not_intro h), run_nil]
      refine ⟨?_, fun p _ => rfl⟩
      rw [hc s hs _ (List.prefix_refl _), hfile]
      exact hat
    · rw [if_pos h]
      exact ⟨run_ownCommand_self isDir _ perm fs,
        fun p hne => run_ownCommand_frame isDir perm fs (hframe p hne)⟩
  | .dir name perm children =>
    have hdir : isDir (parent ++ [name]) = true := hp ⟨_, true, perm⟩ (by simp [Item.nodes])
    simp only [recurse, run_append, Item.name] at hc ⊢
    generalize (Item.dir name perm children).best_subtree iteritems = best
    obtain ⟨hbelow, hframe⟩ := run_inherit isDir (parent ++ [name]) best current fs hc
    generalize run isDir (if current ≠ some best then [subtreeCommand (parent ++ [name]) best]
      else []) fs = fs₁ at hbelow hframe ⊢
    have hself := hbelow _ (List.prefix_refl _)
    rw [hdir] at hself
    obtain ⟨hown, hothers⟩ := run_own isDir (parent ++ [name]) perm (best.at true) fs₁ hself
    generalize run isDir (if perm ≠ best.at true then [ownCommand (parent ++ [name]) perm]
      else []) fs₁ = fs₂ at hown hothers ⊢
    have hinherit : ∀ s, some best = some s → ∀ i ∈ children, ∀ p,
        parent ++ [name] ++ [i.name] <+: p → fs₂ p = s.at (isDir p) := by
      intro s hs i _ p hip
      rw [hothers p (ne_of_below hip), hbelow p ((List.prefix_append _ _).trans hip),
        Option.some.inj hs]
    obtain ⟨hnodes, hrest⟩ := recurseAll_spec isDir (parent ++ [name]) children (some best) fs₂
      hd (fun n hn => hp n (by simp [Item.nodes, hn])) hinherit
    constructor
    · intro n hn
      simp only [Item.nodes, List.mem_cons] at hn
      rcases hn with rfl | hn
      · rw [hrest _ (fun i _ hi => ne_of_below hi rfl)]
        exact hown
      · exact hnodes n hn
    · intro p hnot
      have hchild : ∀ i ∈ children, ¬ parent ++ [name] ++ [i.name] <+: p :=
        fun i _ hi => hnot ((List.prefix_append _ _).trans hi)
      have hne : p ≠ parent ++ [name] := fun h => hnot (h ▸ List.prefix_refl _)
      rw [hrest p hchild, hothers p hne, hframe p hnot]

/-- The commands of several items of a directory set the subtrees of all of them, and nothing
else. -/
lemma recurseAll_spec (isDir : Path → Bool) (parent : Path) (items : List Item)
    (current : Option Setting) (fs : Path → Perm) (hd : DistinctAll items)
    (hp : ∀ n ∈ nodesAll parent items, isDir n.path = n.dir)
    (hc : ∀ s, current = some s → ∀ i ∈ items, ∀ p, parent ++ [i.name] <+: p →
      fs p = s.at (isDir p)) :
    (∀ n ∈ nodesAll parent items,
      run isDir (recurseAll iteritems parent items current) fs n.path = n.perm) ∧
    ∀ p, (∀ i ∈ items, ¬ parent ++ [i.name] <+: p) →
      run isDir (recurseAll iteritems parent items current) fs p = fs p := by
  match items with
  | [] => simp [nodesAll, recurseAll]
  | item :: items =>
    obtain ⟨hne, hditem, hditems⟩ := hd
    simp only [nodesAll, List.mem_append] at hp
    obtain ⟨hitem, hframe⟩ := recurse_spec isDir parent item current fs hditem
      (fun n hn => hp n (Or.inl hn)) (fun s hs => hc s hs item (by simp))
    simp only [recurseAll, run_append]
    generalize run isDir (recurse iteritems parent item current) fs = fs₁ at hitem hframe ⊢
    -- the commands of the first item do not touch what the others have inherited
    have hinherit : ∀ s, current = some s → ∀ i ∈ items, ∀ p, parent ++ [i.name] <+: p →
        fs₁ p = s.at (isDir p) := by
      intro s hs i hi p hip
      rw [hframe p (fun h => hne i hi (name_unique h hip))]
      exact hc s hs i (by simp [hi]) p hip
    obtain ⟨hnodes, hrest⟩ := recurseAll_spec isDir parent items current fs₁ hditems
      (fun n hn => hp n (Or.inr hn)) hinherit
    constructor
    · intro n hn
      simp only [nodesAll, List.mem_append] at hn
      rcases hn with hn | hn
      · have hbelow := item.nodes_below parent n hn
        rw [hrest _ (fun i hi h => hne i hi (name_unique hbelow h))]
        exact hitem n hn
      · exact hnodes n hn
    · intro p hnot
      rw [hrest p (fun i hi => hnot i (by simp [hi])), hframe p (hnot item (by simp))]

end

/-- **The commands of a tree set it.** Whatever the order in which the dictionaries are gone
through, and whatever the permissions are at first, `SetPermissions` of a directory writes commands
after which each of its files and directories has its own owner, group and mode.

**Proof sketch.** This is `recurse_spec` for a setting that nothing has inherited. -/
theorem setPermissions_sets (isDir : Path → Bool) (parent : Path) (item : Item)
    (hdir : item.isDir = true) (hd : item.Distinct) (hp : item.Present isDir parent) :
    ∃ commands, SetPermissions iteritems parent item = some commands ∧
      ∀ fs, ∀ n ∈ item.nodes parent, run isDir commands fs n.path = n.perm := by
  refine ⟨recurse iteritems parent item none, if_pos hdir, fun fs => ?_⟩
  have hc : ∀ s : Setting, none = some s → ∀ p, parent ++ [item.name] <+: p →
      fs p = s.at (isDir p) := fun s hs => by cases hs
  exact (recurse_spec iteritems isDir parent item none fs hd hp hc).1

/-- A directory with a program and a directory of another group and mode. -/
def sampleTree : Item :=
  .dir "system" ⟨0, 0, 0o755⟩
    [.file "build.prop" ⟨0, 0, 0o644⟩,
      .dir "bin" ⟨0, 2000, 0o755⟩ [.file "sh" ⟨0, 2000, 0o755⟩, .file "ip" ⟨0, 0, 0o755⟩]]

theorem setPermissions_sets_sampleTree :
    ∃ commands, SetPermissions id [] sampleTree = some commands ∧
      ∀ fs, ∀ n ∈ sampleTree.nodes [],
        run (fun p => decide (p.length = 1 ∨ p = ["system", "bin"])) commands fs n.path = n.perm :=
  setPermissions_sets id _ [] sampleTree rfl
    (by simp [sampleTree, Item.Distinct, DistinctAll, Item.name])
    (by simp [Item.Present, sampleTree, Item.nodes, nodesAll])

end Release
