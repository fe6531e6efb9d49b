import Mathlib.Algebra.Order.Ring.Nat
import Mathlib.Data.List.Sort
import Gs702aHal.Lib.FileTree
import Gs702aHal.Release.ItemPermissions

set_option relaxedAutoImplicit false
set_option autoImplicit false

/-!
# The table of items

An update package is made from an archive of target files. While the entries below `SYSTEM/` are
copied into the package, an item is made of each of them, and of all directories on the way to it;
symbolic links are not copied but kept in a list. The items are kept in a table by their names, and
are the tree whose owners and modes the script sets.

A name is the list of its components from the last to the first, so that what is left of it after
the first one is the name of its directory. No component is empty.

## Main definitions

* `Release.Items`, `Release.Get` — the table; a new item is put below its directory.
* `Release.CopySystemFiles` — the items, the files and the links of an archive.
* `Release.GetMetadata` — owner, group and mode of a path in a record.
* `Release.Items.item` — the tree that the table stands for.

## Main results

* `Release.get_spec` — a new item comes with all directories on the way to it, and nothing else.
* `Release.copySystemFiles_spec` — the items of an archive are its files and directories and those
  on the way to them.
* `Release.nodes_item` — the tree has a node for each item of the table.
-/

namespace Release

open FileTree

/-- The components of a name, the last one first. -/
abbrev Name := List String

/-- `ITEMS`: the items by their names, in the order in which they were made, and whether they are
directories. -/
abbrev Items := List (Name × Bool)

/-- Whether an item is a directory, if there is one of the name. -/
def Items.dir? (items : Items) (name : Name) : Option Bool := items.lookup name

/-- `Item.Get`. A new item is put among the children of its directory, which it makes first if
needed; a file has no list of children, so that this fails. -/
def Get : Name → Bool → Items → Option Items
  | [], dir, items => if (items.dir? []).isSome then some items else some (items ++ [([], dir)])
  | last :: up, dir, items =>
    if (items.dir? (last :: up)).isSome then some items
    else do
      let items ← Get up true items
      if items.dir? up = some true then some (items ++ [(last :: up, dir)]) else none

/-! ### Copying -/

/-- What a file of the system is, if it is not a directory. -/
inductive Leaf
  | file (data : String)
  | link (dest : String)
  deriving DecidableEq

/-- `ZipInfo`, an entry of an archive: its name, whether the name ends in a slash, its attributes
and its contents. -/
structure ZipInfo where
  filename : Path
  slash : Bool
  external_attr : ℕ
  data : String
  deriving DecidableEq

/-- `IsSymlink`. -/
def IsSymlink (info : ZipInfo) : Bool :=
  decide ((info.external_attr >>> 16) &&& 0o770000 = 0o120000)

/-- Where an entry goes, if its name starts with `SYSTEM/`. -/
def ZipInfo.path? (info : ZipInfo) : Option Path :=
  match info.filename with
  | "SYSTEM" :: base => if info.slash ∨ base ≠ [] then some ("system" :: base) else none
  | _ => none

/-- What an entry is. -/
def ZipInfo.content (info : ZipInfo) : Entry Leaf :=
  if IsSymlink info then .leaf (.link info.data)
  else if info.slash then .dir else .leaf (.file info.data)

/-- What `CopySystemFiles` has made of the entries so far: the items, what it has written into the
package, and the links, each with what it points to. -/
structure Copied where
  items : Items
  output_zip : List ZipInfo
  symlinks : List (String × Path)

/-- The loop of `CopySystemFiles` for one entry. -/
def copyEntry (c : Copied) (info : ZipInfo) : Option Copied :=
  match info.path? with
  | none => some c
  | some fn =>
    if IsSymlink info then some { c with symlinks := c.symlinks ++ [(info.data, fn)] }
    else
      (Get fn.reverse info.slash c.items).map fun items =>
        { c with items := items, output_zip := c.output_zip ++ [{ info with filename := fn }] }

/-- A path as it is written. -/
def Path.text (path : Path) : String := "/" ++ "/".intercalate path

/-- The order of the pairs of two texts. -/
def linkBefore (a b : String × Path) : Bool :=
  decide (a.1 < b.1 ∨ a.1 = b.1 ∧ Path.text a.2 ≤ Path.text b.2)

/-- `CopySystemFiles`, without a substitute. -/
def CopySystemFiles (infolist : List ZipInfo) (items : Items) : Option Copied :=
  (infolist.foldlM copyEntry ⟨items, [], []⟩).map fun c =>
    { c with symlinks := c.symlinks.mergeSort linkBefore }

/-! ### The tree -/

/-- `GetMetadata` for a path: the last line of the record that names it, except for the files that
the script makes itself. -/
def GetMetadata (records : List (Path × Perm)) (path : Path) : Option Perm :=
  if path = ["system", "recovery-from-boot.p"] then some ⟨0, 0, 0o644⟩
  else if path = ["system", "etc", "install-recovery.sh"] then some ⟨0, 0, 0o544⟩
  else records.reverse.lookup path

/-- The children of a directory. -/
def Items.children (items : Items) (name : Name) : Items :=
  items.filter fun e => e.1 ≠ [] ∧ e.1.tail = name

/-- The names of the items of a directory, in order. -/
def itemBefore (a b : Item) : Bool := decide (a.name ≤ b.name)

/-- An item of the table, with all that is below it. A line of the record for a directory sorts its
children. The fuel is for the levels below it. -/
def Items.item (items : Items) (records : List (Path × Perm)) : ℕ → Name → Bool → Item
  | fuel + 1, name, true =>
    let children := (items.children name).map fun e => items.item records fuel e.1 e.2
    .dir (name.headD "") ((GetMetadata records name.reverse).getD ⟨0, 0, 0⟩)
      (if (records.lookup name.reverse).isSome then children.mergeSort itemBefore else children)
  | _, name, _ => .file (name.headD "") ((GetMetadata records name.reverse).getD ⟨0, 0, 0⟩)

/-- The number of levels of a table. -/
def Items.depth (items : Items) : ℕ := (items.map fun e => e.1.length).foldr max 0

/-! ### The table stays a tree -/

namespace Items

/-- Every name is there once, and below a directory. -/
structure Closed (items : Items) : Prop where
  nodup : (items.map Prod.fst).Nodup
  up : ∀ last up dir, (last :: up, dir) ∈ items → (up, true) ∈ items

variable {items : Items} {name : Name} {dir : Bool}

/-- The names of the table are those of its items. -/
lemma mem_names : name ∈ items.map Prod.fst ↔ ∃ d, (name, d) ∈ items := by
  constructor
  · intro h
    obtain ⟨⟨n, d⟩, hd, rfl⟩ := List.mem_map.mp h
    exact ⟨d, hd⟩
  · rintro ⟨d, hd⟩
    exact List.mem_map_of_mem hd

/-- A name stands for one item. -/
lemma Closed.unique (h : items.Closed) {d d' : Bool} (hd : (name, d) ∈ items)
    (hd' : (name, d') ∈ items) : d = d' := by
  have h₁ := (lookup_eq_some h.nodup).mpr hd
  have h₂ := (lookup_eq_some h.nodup).mpr hd'
  exact Option.some.inj (h₁.symm.trans h₂)

/-- What is on the way to an item is a directory. -/
lemma Closed.above (h : items.Closed) {m : Name} (hm : m <:+ name) (hne : m ≠ name)
    (hn : (name, dir) ∈ items) : (m, true) ∈ items := by
  induction name generalizing dir with
  | nil => exact absurd (List.suffix_nil.mp hm) hne
  | cons last up ih =>
    have hup : (up, true) ∈ items := h.up last up dir hn
    have hmup : m <:+ up := (List.suffix_cons_iff.mp hm).resolve_left hne
    by_cases heq : m = up
    · exact heq ▸ hup
    · exact ih hmup heq hup

/-- What is on the way to the directory of an item is on the way to the item. -/
lemma above_cons {m up : Name} (last : String) (h : m <:+ up) :
    m <:+ last :: up ∧ m ≠ last :: up := by
  refine ⟨h.trans (List.suffix_cons last up), fun heq => ?_⟩
  have hlen := h.length_le
  rw [heq, List.length_cons] at hlen
  omega

/-- If an item is there, so is all that comes with it. -/
lemma Closed.mem_iff_of_mem (h : items.Closed) (hmem : name ∈ items.map Prod.fst) (m : Name)
    (d : Bool) : (m, d) ∈ items ↔ (m, d) ∈ items ∨
      (m = name ∧ d = dir ∧ name ∉ items.map Prod.fst) ∨ (m <:+ name ∧ m ≠ name ∧ d = true) := by
  refine ⟨.inl, ?_⟩
  rintro (hm | ⟨-, -, hnot⟩ | ⟨hm, hne, rfl⟩)
  · exact hm
  · exact absurd hmem hnot
  · obtain ⟨d₀, hin⟩ := mem_names.mp hmem
    exact h.above hm hne hin

/-- What is below a directory, and not the directory, is below one of its children. -/
lemma Closed.child (h : items.Closed) {m : Name} (hm : name <:+ m) (hne : name ≠ m)
    (hin : (m, dir) ∈ items) : ∃ last d, last :: name <:+ m ∧ (last :: name, d) ∈ items := by
  obtain ⟨t, ht⟩ := hm
  obtain rfl | ⟨t', last, rfl⟩ := List.eq_nil_or_concat t
  · exact absurd ht hne
  · have hsuf : last :: name <:+ m := ⟨t', by rw [← ht, List.concat_append]⟩
    by_cases heq : last :: name = m
    · exact ⟨last, dir, hsuf, heq ▸ hin⟩
    · exact ⟨last, true, hsuf, h.above hsuf heq hin⟩

/-- A new item below a directory keeps the table a tree. -/
lemma Closed.concat (h : items.Closed) (hnot : name ∉ items.map Prod.fst)
    (hup : ∀ last up, name = last :: up → (up, true) ∈ items) :
    Closed (items ++ [(name, dir)]) where
  nodup := by
    rw [List.map_append, List.nodup_append]
    refine ⟨h.nodup, by simp, ?_⟩
    intro a ha b hb
    have hbn : b = name := by simpa using hb
    exact fun hab => hnot (hbn ▸ hab ▸ ha)
  up := by
    intro last up d hmem
    rcases List.mem_append.mp hmem with hmem | hmem
    · exact List.mem_append_left _ (h.up last up d hmem)
    · have heq : last :: up = name := congrArg Prod.fst (List.mem_singleton.mp hmem)
      exact List.mem_append_left _ (hup last up heq.symm)

end Items

/-- **A new item comes with all directories on the way to it, and nothing else.**

**Proof sketch.** By induction on the name. Its directory is made first, with what is on the way to
it. -/
theorem get_spec {items : Items} {name : Name} (dir : Bool) (hc : items.Closed)
    (hup : ∀ m d, m <:+ name → m ≠ name → (m, d) ∈ items → d = true) :
    ∃ items', Get name dir items = some items' ∧ items'.Closed ∧
      ∀ m d, (m, d) ∈ items' ↔ (m, d) ∈ items ∨
        (m = name ∧ d = dir ∧ name ∉ items.map Prod.fst) ∨
        (m <:+ name ∧ m ≠ name ∧ d = true) := by
  induction name generalizing dir items with
  | nil =>
    by_cases h : (items.dir? []).isSome
    · exact ⟨items, if_pos h, hc, hc.mem_iff_of_mem (lookup_isSome.mp h)⟩
    · have hnot : [] ∉ items.map Prod.fst := fun hmem => h (lookup_isSome.mpr hmem)
      refine ⟨items ++ [([], dir)], if_neg h, hc.concat hnot fun _ _ heq => ?_, fun m d => ?_⟩
      · cases heq
      · rw [List.mem_append, List.mem_singleton, Prod.mk.injEq]
        refine or_congr_right ⟨fun hm => .inl ⟨hm.1, hm.2, hnot⟩, ?_⟩
        rintro (⟨hm, hd, -⟩ | ⟨hm, hne, -⟩)
        · exact ⟨hm, hd⟩
        · exact absurd (List.suffix_nil.mp hm) hne
  | cons last up ih =>
    have hself := Items.above_cons last (List.suffix_refl up)
    by_cases h : (items.dir? (last :: up)).isSome
    · exact ⟨items, if_pos h, hc, hc.mem_iff_of_mem (lookup_isSome.mp h)⟩
    · have hnot : last :: up ∉ items.map Prod.fst := fun hmem => h (lookup_isSome.mpr hmem)
      obtain ⟨items', hget, hc', hmem⟩ := ih true hc fun m d hm hne =>
        hup m d (Items.above_cons last hm).1 (Items.above_cons last hm).2
      -- the directory is there now, whether it is new or not
      have hupdir : (up, true) ∈ items' := by
        by_cases hin : up ∈ items.map Prod.fst
        · obtain ⟨d, hd⟩ := Items.mem_names.mp hin
          rw [hup up d hself.1 hself.2 hd] at hd
          exact (hmem up true).mpr (.inl hd)
        · exact (hmem up true).mpr (.inr (.inl ⟨rfl, rfl, hin⟩))
      -- the item itself is not: what was made is on the way to it
      have hnot' : last :: up ∉ items'.map Prod.fst := by
        intro hin
        obtain ⟨d, hd⟩ := Items.mem_names.mp hin
        rcases (hmem _ d).mp hd with hd | ⟨heq, -, -⟩ | ⟨hm, -, -⟩
        · exact hnot (List.mem_map_of_mem hd)
        · exact hself.2 heq.symm
        · exact (Items.above_cons last hm).2 rfl
      have hdir : items'.dir? up = some true := (lookup_eq_some hc'.nodup).mpr hupdir
      refine ⟨items' ++ [(last :: up, dir)], ?_, hc'.concat hnot' ?_, fun m d => ?_⟩
      · rw [Get, if_neg h, hget, Option.bind_eq_bind, Option.bind_some, if_pos hdir]
      · rintro last' up' heq
        cases heq
        exact hupdir
      · rw [List.mem_append, List.mem_singleton, Prod.mk.injEq, hmem m d]
        constructor
        · rintro ((hm | ⟨rfl, rfl, -⟩ | ⟨hm, -, rfl⟩) | ⟨rfl, rfl⟩)
          · exact .inl hm
          · exact .inr (.inr ⟨hself.1, hself.2, rfl⟩)
          · have hcons := Items.above_cons last hm
            exact .inr (.inr ⟨hcons.1, hcons.2, rfl⟩)
          · exact .inr (.inl ⟨rfl, rfl, hnot⟩)
        · rintro (hm | ⟨rfl, rfl, -⟩ | ⟨hm, hne, rfl⟩)
          · exact .inl (.inl hm)
          · exact .inr ⟨rfl, rfl⟩
          · have hmup : m <:+ up := (List.suffix_cons_iff.mp hm).resolve_left hne
            by_cases heq : m = up
            · exact .inl ((hmem m true).mp (heq ▸ hupdir))
            · exact .inl (.inr (.inr ⟨hmup, heq, rfl⟩))

/-! ### The items of an archive -/

/-- A symbolic link. -/
def isLink : Entry Leaf → Bool
  | .leaf (.link _) => true
  | _ => false

/-- Where an entry goes and what it is, if its name starts with `SYSTEM/`. -/
def ZipInfo.entry? (info : ZipInfo) : Option (Path × Entry Leaf) :=
  info.path?.map fun path => (path, info.content)

/-- The system of an archive. -/
def system (infolist : List ZipInfo) : List (Path × Entry Leaf) := infolist.filterMap ZipInfo.entry?

/-- What a file or a directory of the package is when it is unpacked. -/
def unpacked (info : ZipInfo) : Path × Entry Leaf :=
  (info.filename, if info.slash then .dir else .leaf (.file info.data))

/-- What is made of a link in the list. -/
def linked (l : String × Path) : Path × Entry Leaf := (l.2, .leaf (.link l.1))

/-- The items that the entries need: their own, except for links, and those of the directories on
the way to them. -/
def NeedsItem (entries : List (Path × Entry Leaf)) (m : Name) (d : Bool) : Prop :=
  ∃ e ∈ entries, isLink e.2 = false ∧
    (m.reverse = e.1 ∧ d = decide (e.2 = .dir) ∨ m.reverse <+: e.1 ∧ m.reverse ≠ e.1 ∧ d = true)

/-- What has been made of the entries. -/
structure Copies (entries : List (Path × Entry Leaf)) (c : Copied) : Prop where
  closed : c.items.Closed
  mem_items : ∀ m d, (m, d) ∈ c.items ↔ NeedsItem entries m d
  output_zip : c.output_zip.map unpacked = entries.filter fun e => !isLink e.2
  symlinks : (c.symlinks.map linked).Perm (entries.filter fun e => isLink e.2)

/-- A link, and what it points to. -/
lemma content_of_link {info : ZipInfo} (h : IsSymlink info = true) :
    info.content = .leaf (.link info.data) := if_pos h

/-- What is not a link, as it is unpacked from the package. -/
lemma content_of_not_link {info : ZipInfo} (h : ¬ IsSymlink info = true) :
    info.content = if info.slash then .dir else .leaf (.file info.data) := if_neg h

/-- It is not a link in the system either. -/
lemma isLink_content (info : ZipInfo) : isLink info.content = IsSymlink info := by
  rw [ZipInfo.content]
  cases IsSymlink info <;> cases info.slash <;> rfl

/-- It is a directory if its name ends in a slash. -/
lemma content_eq_dir {info : ZipInfo} (h : ¬ IsSymlink info = true) :
    decide (info.content = .dir) = info.slash := by
  rw [content_of_not_link h]
  cases info.slash <;> rfl

/-- The items of more entries. -/
lemma needsItem_append (entries : List (Path × Entry Leaf)) (e : Path × Entry Leaf) (m : Name)
    (d : Bool) :
    NeedsItem (entries ++ [e]) m d ↔ NeedsItem entries m d ∨ NeedsItem [e] m d := by
  simp only [NeedsItem, List.mem_append, or_and_right, exists_or]

/-- If the entries fit together, an item on the way to one of them is a directory, whichever entry
it has been made for. -/
lemma NeedsItem.dir_of_above {entries : List (Path × Entry Leaf)} (hfit : Fits entries) {m : Name}
    {d : Bool} (h : NeedsItem entries m d) {e : Path × Entry Leaf} (he : e ∈ entries)
    (hpre : m.reverse <+: e.1) (hne : m.reverse ≠ e.1) : d = true := by
  obtain ⟨a, ha, -, ⟨heq, hd⟩ | ⟨-, -, hd⟩⟩ := h
  · rw [hd, hfit.above a ha e he (heq ▸ hpre) (heq ▸ hne), decide_eq_true_eq]
  · exact hd

/-- So is the item of an entry, if another one has made it before. -/
lemma NeedsItem.eq_of_entry {entries : List (Path × Entry Leaf)} {e : Path × Entry Leaf}
    (hfit : Fits (entries ++ [e])) {m : Name} {d : Bool} (h : NeedsItem entries m d)
    (hm : m.reverse = e.1) : e.2 = .dir ∧ d = true := by
  obtain ⟨a, ha, -, ⟨heq, -⟩ | ⟨hpre, hne, hd⟩⟩ := h
  · have hnd := hfit.nodup
    rw [List.map_append, List.nodup_append] at hnd
    exact absurd (heq.symm.trans hm) (hnd.2.2 a.1 (List.mem_map_of_mem ha) e.1 (by simp))
  · refine ⟨hfit.above e (by simp) a (List.mem_append_left _ ha) (hm ▸ hpre) (hm ▸ hne), hd⟩

/-- A file or a directory is copied, with an item. -/
lemma Copies.file {entries : List (Path × Entry Leaf)} {c : Copied} (h : Copies entries c)
    {info : ZipInfo} {fn : Path} (hfn : info.path? = some fn) (hlink : ¬ IsSymlink info = true)
    (hfit : Fits (entries ++ [(fn, info.content)])) :
    ∃ c', copyEntry c info = some c' ∧ Copies (entries ++ [(fn, info.content)]) c' := by
  have hrev : ∀ m : Name, m.reverse = fn ↔ m = fn.reverse := fun m => List.reverse_eq_iff
  have hsuf : ∀ m : Name, m.reverse <+: fn ↔ m <:+ fn.reverse := fun m => by
    rw [← List.reverse_suffix, List.reverse_reverse]
  have hnot : isLink info.content = false :=
    (isLink_content info).trans (Bool.eq_false_iff.mpr hlink)
  have hway : ∀ (m : Name) (d : Bool), m <:+ fn.reverse → m ≠ fn.reverse → (m, d) ∈ c.items →
      d = true := by
    intro m d hm hne hin
    have hneed := (needsItem_append entries (fn, info.content) m d).mpr
      (.inl ((h.mem_items m d).mp hin))
    exact hneed.dir_of_above hfit (List.mem_append_right _ (List.mem_singleton_self _))
      ((hsuf m).mpr hm) fun heq => hne ((hrev m).mp heq)
  obtain ⟨items, hget, hc, hmem⟩ := get_spec info.slash h.closed hway
  refine ⟨_, by rw [copyEntry, hfn]; exact (if_neg hlink).trans (by rw [hget]; rfl), hc, ?_, ?_, ?_⟩
  · intro m d
    rw [hmem m d, h.mem_items m d, needsItem_append]
    have hnew : NeedsItem [(fn, info.content)] m d ↔
        m = fn.reverse ∧ d = info.slash ∨ m <:+ fn.reverse ∧ m ≠ fn.reverse ∧ d = true := by
      simp only [NeedsItem, List.mem_singleton, exists_eq_left, hnot, true_and, hrev, hsuf, ne_eq,
        content_eq_dir hlink]
    rw [hnew]
    constructor
    · rintro (hm | ⟨hm, hd, -⟩ | habove)
      · exact .inl hm
      · exact .inr (.inl ⟨hm, hd⟩)
      · exact .inr (.inr habove)
    · rintro (hm | ⟨rfl, rfl⟩ | habove)
      · exact .inl hm
      · by_cases hin : fn.reverse ∈ c.items.map Prod.fst
        · -- the item has been made for an entry below it
          obtain ⟨d, hd⟩ := Items.mem_names.mp hin
          have hneed := (h.mem_items _ d).mp hd
          obtain ⟨hdir, rfl⟩ := hneed.eq_of_entry hfit (List.reverse_reverse fn)
          rw [← content_eq_dir hlink, decide_eq_true hdir]
          exact .inl hneed
        · exact .inr (.inl ⟨rfl, rfl, hin⟩)
      · exact .inr (.inr habove)
  · have hwritten : unpacked { info with filename := fn } = (fn, info.content) := by
      rw [unpacked, content_of_not_link hlink]
    rw [List.map_append, h.output_zip, List.filter_append, List.map_singleton, hwritten]
    simp [hnot]
  · rw [List.filter_append]
    simpa [hnot] using h.symlinks

/-- A link is kept in the list. -/
lemma Copies.link {entries : List (Path × Entry Leaf)} {c : Copied} (h : Copies entries c)
    {info : ZipInfo} {fn : Path} (hfn : info.path? = some fn) (hlink : IsSymlink info = true) :
    ∃ c', copyEntry c info = some c' ∧ Copies (entries ++ [(fn, info.content)]) c' := by
  have htrue : isLink info.content = true := (isLink_content info).trans hlink
  refine ⟨{ c with symlinks := c.symlinks ++ [(info.data, fn)] },
    by rw [copyEntry, hfn]; exact if_pos hlink, h.closed, ?_, ?_, ?_⟩
  · intro m d
    rw [h.mem_items m d, needsItem_append]
    refine ⟨.inl, fun hm => hm.resolve_right ?_⟩
    rintro ⟨e, he, hnot, -⟩
    rw [List.mem_singleton.mp he, htrue] at hnot
    cases hnot
  · rw [List.filter_append, h.output_zip]
    simp [htrue]
  · have hlinked : linked (info.data, fn) = (fn, info.content) := by
      rw [linked, content_of_link hlink]
    rw [List.map_append, List.filter_append, List.map_singleton, hlinked]
    refine h.symlinks.append ?_
    simp [htrue]

/-- The loop over the rest of the entries. -/
lemma Copies.foldlM (rest : List ZipInfo) {entries : List (Path × Entry Leaf)} {c : Copied}
    (h : Copies entries c) (hfit : Fits (entries ++ system rest)) :
    ∃ c', rest.foldlM copyEntry c = some c' ∧ Copies (entries ++ system rest) c' := by
  induction rest generalizing entries c with
  | nil =>
    refine ⟨c, rfl, ?_⟩
    rw [system, List.filterMap_nil, List.append_nil]
    exact h
  | cons info rest ih =>
    cases hfn : info.path? with
    | none =>
      have hstep : copyEntry c info = some c := by rw [copyEntry, hfn]
      have hsys : system (info :: rest) = system rest :=
        List.filterMap_cons_none (by rw [ZipInfo.entry?, hfn]; rfl)
      rw [List.foldlM_cons, hstep, hsys]
      exact ih h (hsys ▸ hfit)
    | some fn =>
      have hsys : entries ++ system (info :: rest) =
          entries ++ [(fn, info.content)] ++ system rest := by
        rw [system, List.filterMap_cons_some (by rw [ZipInfo.entry?, hfn]; rfl),
          List.append_assoc, List.singleton_append]
        rfl
      rw [hsys] at hfit ⊢
      have hfit' : Fits (entries ++ [(fn, info.content)]) :=
        ⟨(List.nodup_append.mp (List.map_append ▸ hfit.nodup)).1, fun a ha b hb =>
          hfit.above a (List.mem_append_left _ ha) b (List.mem_append_left _ hb)⟩
      obtain ⟨c', hstep, hc'⟩ : ∃ c', copyEntry c info = some c' ∧
          Copies (entries ++ [(fn, info.content)]) c' := by
        by_cases hlink : IsSymlink info = true
        · exact h.link hfn hlink
        · exact h.file hfn hlink hfit'
      rw [List.foldlM_cons, hstep]
      exact ih hc' hfit

/-- **The items of an archive are its files and directories, and those on the way to them.** If the
entries fit together they are all copied: the package has the files, the list has the links, and the
table is a tree.

**Proof sketch.** By induction on the entries with `get_spec`: what is on the way to an entry, or
has its name already, is a directory. -/
theorem copySystemFiles_spec {infolist : List ZipInfo} (hfit : Fits (system infolist)) :
    ∃ c, CopySystemFiles infolist [] = some c ∧ Copies (system infolist) c := by
  have h₀ : Copies [] ⟨[], [], []⟩ :=
    ⟨⟨by simp, by simp⟩, by simp [NeedsItem], by simp, by simp⟩
  obtain ⟨c, hloop, hc⟩ := h₀.foldlM infolist (by simpa using hfit)
  rw [List.nil_append] at hc
  refine ⟨{ c with symlinks := c.symlinks.mergeSort linkBefore },
    by rw [CopySystemFiles, hloop]; rfl, hc.closed, hc.mem_items, hc.output_zip, ?_⟩
  exact ((List.mergeSort_perm c.symlinks linkBefore).map linked).trans hc.symlinks

/-! ### The tree of the table -/

/-- The nodes of several items are those of one of them. -/
lemma mem_nodesAll {parent : Path} {items : List Item} {n : Node} :
    n ∈ nodesAll parent items ↔ ∃ i ∈ items, n ∈ i.nodes parent := by
  induction items with
  | nil => simp [nodesAll]
  | cons item items ih => simp [nodesAll, ih]

/-- Items of different names, each with different names below it, have different names. -/
lemma distinctAll_of_pairwise {items : List Item}
    (hp : items.Pairwise fun a b => a.name ≠ b.name) (hd : ∀ i ∈ items, i.Distinct) :
    DistinctAll items := by
  induction items with
  | nil => trivial
  | cons item items ih =>
    obtain ⟨hne, hp⟩ := List.pairwise_cons.mp hp
    exact ⟨hne, hd item (by simp), ih hp fun i hi => hd i (List.mem_cons_of_mem item hi)⟩

namespace Items

variable {items : Items} {records : List (Path × Perm)} {fuel : ℕ} {name : Name} {dir : Bool}

/-- No name has more components than the table has levels. -/
lemma length_le_depth {e : Name × Bool} (h : e ∈ items) : e.1.length ≤ items.depth := by
  induction items with
  | nil => cases h
  | cons e' items ih =>
    rw [depth, List.map_cons, List.foldr_cons]
    rcases List.mem_cons.mp h with rfl | h
    · exact le_max_left _ _
    · exact (ih h).trans (le_max_right _ _)

/-- The children of a directory are the items whose name has one more component. -/
lemma mem_children {e : Name × Bool} :
    e ∈ items.children name ↔ ∃ last, (last :: name, e.2) ∈ items ∧ e.1 = last :: name := by
  obtain ⟨m, d⟩ := e
  rw [children, List.mem_filter, decide_eq_true_eq]
  constructor
  · rintro ⟨hmem, hne, rfl⟩
    cases m with
    | nil => exact absurd rfl hne
    | cons last up => exact ⟨last, hmem, rfl⟩
  · rintro ⟨last, hmem, rfl⟩
    exact ⟨hmem, List.cons_ne_nil _ _, rfl⟩

/-- The item of a name has the last component of it as its name. -/
@[simp]
lemma name_item : (items.item records fuel name dir).name = name.headD "" := by
  cases fuel <;> cases dir <;> rfl

/-- The items of the children of a directory, before or after they are sorted. -/
lemma children_perm :
    (if (records.lookup name.reverse).isSome then
        ((items.children name).map fun e => items.item records fuel e.1 e.2).mergeSort itemBefore
      else (items.children name).map fun e => items.item records fuel e.1 e.2).Perm
      ((items.children name).map fun e => items.item records fuel e.1 e.2) := by
  by_cases h : (records.lookup name.reverse).isSome
  · rw [if_pos h]
    exact List.mergeSort_perm _ _
  · rw [if_neg h]

/-- **The tree has a node for each item of the table** that is below its top, with what the record
says of its path.

**Proof sketch.** By induction on the levels. What is below a directory, and not the directory, is
below one of its children, which is in the table since every item is below a directory of it. -/
theorem nodes_item (hc : items.Closed) {last : String} {up : Name}
    (hin : (last :: up, dir) ∈ items)
    (hfuel : ∀ m d, (m, d) ∈ items → last :: up <:+ m → m.length ≤ up.length + fuel) (n : Node) :
    n ∈ (items.item records fuel (last :: up) dir).nodes up.reverse ↔
      ∃ m d, (m, d) ∈ items ∧ last :: up <:+ m ∧
        n = ⟨m.reverse, d, (GetMetadata records m.reverse).getD ⟨0, 0, 0⟩⟩ := by
  induction fuel generalizing last up dir with
  | zero =>
    have h := hfuel _ _ hin (List.suffix_refl _)
    rw [List.length_cons] at h
    omega
  | succ fuel ih =>
    have hpath : up.reverse ++ [last] = (last :: up).reverse := (List.reverse_cons).symm
    cases dir with
    | false =>
      rw [item, Item.nodes, List.mem_singleton, List.headD_cons, hpath]
      · constructor
        · rintro rfl
          exact ⟨last :: up, false, hin, List.suffix_refl _, rfl⟩
        · rintro ⟨m, d, hm, hsuf, rfl⟩
          by_cases heq : last :: up = m
          · obtain rfl := heq
            rw [hc.unique hm hin]
          · cases hc.unique hin (hc.above hsuf heq hm)
      · exact fun _ _ h => absurd h Bool.false_ne_true
    | true =>
      rw [item, Item.nodes, List.mem_cons, List.headD_cons, hpath, mem_nodesAll]
      have hchild :
          (∃ i ∈ (items.children (last :: up)).map fun e => items.item records fuel e.1 e.2,
            n ∈ i.nodes (last :: up).reverse) ↔
          ∃ m d, (m, d) ∈ items ∧ (last :: up <:+ m ∧ last :: up ≠ m) ∧
            n = ⟨m.reverse, d, (GetMetadata records m.reverse).getD ⟨0, 0, 0⟩⟩ := by
        have hrec : ∀ last' d, (last' :: last :: up, d) ∈ items →
            (n ∈ (items.item records fuel (last' :: last :: up) d).nodes (last :: up).reverse ↔
              ∃ m d', (m, d') ∈ items ∧ last' :: last :: up <:+ m ∧
                n = ⟨m.reverse, d', (GetMetadata records m.reverse).getD ⟨0, 0, 0⟩⟩) := by
          intro last' d hmem
          refine ih hmem fun m d' hm hsuf => ?_
          have hlen := hfuel m d' hm ((List.suffix_cons last' _).trans hsuf)
          rw [List.length_cons]
          omega
        constructor
        · rintro ⟨i, hi, hn⟩
          obtain ⟨⟨m', d'⟩, he, rfl⟩ := List.mem_map.mp hi
          obtain ⟨last', hmem, rfl⟩ := mem_children.mp he
          obtain ⟨m, d, hm, hsuf, rfl⟩ := (hrec last' d' hmem).mp hn
          refine ⟨m, d, hm, ⟨(List.suffix_cons last' _).trans hsuf, ?_⟩, rfl⟩
          intro heq
          have hlen := hsuf.length_le
          rw [← heq, List.length_cons] at hlen
          omega
        · rintro ⟨m, d, hm, ⟨hsuf, hne⟩, hn⟩
          obtain ⟨last', d', hsuf', hmem⟩ := hc.child hsuf hne hm
          have he : (last' :: last :: up, d') ∈ items.children (last :: up) :=
            mem_children.mpr ⟨last', hmem, rfl⟩
          exact ⟨_, List.mem_map_of_mem he, (hrec last' d' hmem).mpr ⟨m, d, hm, hsuf', hn⟩⟩
      simp only [children_perm.mem_iff]
      rw [hchild]
      constructor
      · rintro (rfl | ⟨m, d, hm, ⟨hsuf, -⟩, hn⟩)
        · exact ⟨last :: up, true, hin, List.suffix_refl _, rfl⟩
        · exact ⟨m, d, hm, hsuf, hn⟩
      · rintro ⟨m, d, hm, hsuf, hn⟩
        by_cases heq : last :: up = m
        · obtain rfl := heq
          rw [hc.unique hin hm]
          exact .inl hn
        · exact .inr ⟨m, d, hm, ⟨hsuf, heq⟩, hn⟩

/-- No two items of a directory have the same name. -/
lemma distinct_item (hc : items.Closed) : (items.item records fuel name dir).Distinct := by
  induction fuel generalizing name dir with
  | zero => trivial
  | succ fuel ih =>
    cases dir with
    | false => trivial
    | true =>
      rw [item, Item.Distinct]
      refine distinctAll_of_pairwise ?_ fun i hi => ?_
      · refine (children_perm.pairwise_iff fun hab => Ne.symm hab).mpr ?_
        rw [List.pairwise_map]
        have hnd : (items.children name).Pairwise fun a b => a.1 ≠ b.1 :=
          (List.pairwise_map.mp hc.nodup).sublist List.filter_sublist
        refine hnd.imp_of_mem fun ha hb hab => ?_
        obtain ⟨la, -, ha⟩ := mem_children.mp ha
        obtain ⟨lb, -, hb⟩ := mem_children.mp hb
        rw [name_item, name_item, ha, hb, List.headD_cons, List.headD_cons]
        exact fun heq => hab (by rw [ha, hb, heq])
      · obtain ⟨e, -, rfl⟩ := List.mem_map.mp (children_perm.mem_iff.mp hi)
        exact ih

end Items

end Release
