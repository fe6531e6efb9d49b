import Mathlib.Algebra.Order.Ring.Nat
import Mathlib.Algebra.Order.Ring.Int
import Mathlib.Data.List.Perm.Basic
import Gs702aHal.Release.ItemTable

set_option relaxedAutoImplicit false
set_option autoImplicit false

/-!
# A full update package

The script of a full package formats and mounts the partition of the system, unpacks the files of
the package into it, makes the symbolic links, and then sets owners and modes. It is made of an
archive of target files by `WriteFullOTAPackage`. Here are its commands for the system, and when it
gets as far as to have written them and to have checked the size of the boot image.

The partitions come from a table of the archive. A partition that is missing there, a file system
that the tools do not know and a boot image above the size of its partition all end the making of
the package.

## Main definitions

* `Release.Info` — the table of partitions, and the sizes.
* `Release.MakeSymlinks` — the commands for the links, one for each of their targets.
* `Release.CheckSize` — the check of an image against the size of its partition.
* `Release.WriteFullOTAPackage` — the files of the package and the commands for them.

## Main results

* `Release.makeSymlinks_perm` — the commands for the links make each of them once.
* `Release.checkSize_boot` — when the boot image passes.
* `Release.fullPackage_made_iff` — when a package is made.
-/

namespace Release

open FileTree

/-! ### The partitions -/

/-- `Partition`, a line of the table of partitions. -/
structure Partition where
  mount_point : String
  fs_type : String
  device : String
  length : ℤ

/-- A value of `info_dict`: a text, or the number that `makeint` makes of it. -/
inductive Value
  | text (s : String)
  | int (n : ℤ)

/-- `info_dict`, as far as it is read here: the table of partitions, and the sizes by their keys. -/
structure Info where
  fstab : List Partition
  sizes : List (String × Value)

/-- `fstab[mount_point]`. Each partition of the table is under its own mount point. -/
def Info.partition (info : Info) (mount_point : String) : Option Partition :=
  info.fstab.find? fun p => p.mount_point = mount_point

/-- `PARTITION_TYPES`. -/
def PARTITION_TYPES : List (String × String) :=
  [("bml", "BML"), ("ext2", "EMMC"), ("ext3", "EMMC"), ("ext4", "EMMC"), ("emmc", "EMMC"),
    ("mtd", "MTD"), ("yaffs2", "MTD"), ("vfat", "EMMC")]

/-! ### The script -/

/-- The commands of the script for the system. -/
inductive Line
  | format (fs_type partition_type device : String) (length : ℤ) (mount_point : String)
  | mount (fs_type partition_type device mount_point : String)
  | package_extract_dir (src dst : Path)
  | symlink (dest : String) (links : List Path)
  | permissions (c : Command)

/-- `FormatPartition`. Without a table of partitions it writes no command. -/
def FormatPartition (info : Info) (partition : String) : Option (List Line) :=
  if info.fstab.isEmpty then some []
  else do
    let p ← info.partition partition
    let partition_type ← PARTITION_TYPES.lookup p.fs_type
    some [.format p.fs_type partition_type p.device p.length p.mount_point]

/-- `Mount`. Without a table of partitions it writes no command either. -/
def Mount (info : Info) (mount_point : String) : Option (List Line) :=
  if info.fstab.isEmpty then some []
  else do
    let p ← info.partition mount_point
    let partition_type ← PARTITION_TYPES.lookup p.fs_type
    some [.mount p.fs_type partition_type p.device p.mount_point]

/-- `by_dest.setdefault(d, []).append(l)`. -/
def appendTo (d : String) (l : Path) : List (String × List Path) → List (String × List Path)
  | [] => [(d, [l])]
  | e :: by_dest => if e.1 = d then (d, e.2 ++ [l]) :: by_dest else e :: appendTo d l by_dest

/-- `MakeSymlinks`. -/
def MakeSymlinks (symlink_list : List (String × Path)) : List Line :=
  let by_dest := symlink_list.foldl (fun by_dest s => appendTo s.1 s.2 by_dest) []
  (by_dest.mergeSort fun a b => decide (a.1 ≤ b.1)).map fun e =>
    .symlink e.1 (e.2.mergeSort fun a b => decide (Path.text a ≤ Path.text b))

/-- The two programs that get their permissions in any case. -/
def lastPermissions : List Command :=
  [ownCommand ["system", "bin", "pppd"] ⟨0, 2000, 0o755⟩,
    ownCommand ["system", "xbin", "usb_modeswitch"] ⟨0, 2000, 0o755⟩]

/-- The name of an image, without `.img`. -/
def imageName (target : String) : String :=
  if ".img".toList <:+ target.toList then
    String.ofList (target.toList.take (target.toList.length - 4))
  else target

/-- The last part of the path of a device. -/
def deviceName (device : String) : String :=
  String.ofList (device.toList.reverse.takeWhile (· ≠ '/')).reverse

/-- A limit as it is for the file system. -/
def spared (fs_type : String) (limit : ℤ) : ℤ :=
  if fs_type = "yaffs2" then limit / 2048 * (2048 + 64) else limit

/-- `CheckSize` for `size` octets, from the limit of the partition on. The quotient of the source is
a float, which compares with 99 as the fraction does if the limit is below `2 ^ 46`. -/
def checkLimit (size : ℕ) (fs_type : String) : Option Value → Option Unit
  | none => some ()
  -- a text that is not empty cannot be divided by
  | some (.text limit) => if fs_type = "" ∨ limit = "" then some () else none
  | some (.int limit) =>
    if fs_type = "" ∨ limit = 0 then some ()
    else
      let limit := spared fs_type limit
      if limit = 0 ∨ 0 < limit ∧ 99 * limit ≤ 100 * size then none else some ()

/-- The limit that the dictionary has for a partition. -/
def Info.limit (info : Info) (p : Partition) : Option Value :=
  info.sizes.lookup (deviceName p.device ++ "_size")

/-- `CheckSize` for data of that many octets. -/
def CheckSize (data : ℕ) (target : String) (info : Info) : Option Unit := do
  let mount_point := "/" ++ imageName target
  -- without a table, the type of the file system has no value yet when it is read
  let p ← if info.fstab.isEmpty then none
    else info.partition (if mount_point = "/userdata" then "/data" else mount_point)
  checkLimit data p.fs_type (info.limit p)

/-- `WriteFullOTAPackage`, from the formatting of the system to the check of the boot image, which
is given by its size: what it copies into the package, and the commands of its script for the
system. -/
def WriteFullOTAPackage (iteritems : Dict Key → Dict Key) (info : Info)
    (infolist : List ZipInfo) (records : List (Path × Perm)) (boot_img : Option ℕ) :
    Option (List ZipInfo × List Line) := do
  let format ← FormatPartition info "/system"
  let mount ← Mount info "/system"
  let copied ← CopySystemFiles infolist []
  let items ← Get ["system"] false copied.items
  -- the first command for a path that the record does not name cannot be written
  if ∀ e ∈ items, ["system"] <:+ e.1 → (GetMetadata records e.1.reverse).isSome then
    let dir := (items.dir? ["system"]).getD false
    let commands ← SetPermissions iteritems [] (items.item records items.depth ["system"] dir)
    let data ← boot_img
    CheckSize data "boot.img" info
    some (copied.output_zip,
      format ++ mount ++ .package_extract_dir ["system"] ["system"] ::
        MakeSymlinks copied.symlinks ++ (commands ++ lastPermissions).map .permissions)
  else none

/-! ### The links -/

/-- The links that a dictionary stands for. -/
def allLinks (by_dest : List (String × List Path)) : List (Path × Entry Leaf) :=
  by_dest.flatMap fun e => e.2.map fun l => linked (e.1, l)

/-- The links that a command makes. -/
def Line.links : Line → List (Path × Entry Leaf)
  | .symlink dest links => links.map fun l => linked (dest, l)
  | _ => []

/-- The dictionary has one more link. -/
lemma allLinks_appendTo (d : String) (l : Path) (by_dest : List (String × List Path)) :
    (allLinks (appendTo d l by_dest)).Perm (linked (d, l) :: allLinks by_dest) := by
  induction by_dest with
  | nil => exact .refl _
  | cons e by_dest ih =>
    by_cases h : e.1 = d
    · rw [appendTo, if_pos h, allLinks, List.flatMap_cons, List.map_append, List.map_singleton,
        List.append_assoc, allLinks, List.flatMap_cons, h]
      exact List.perm_middle
    · rw [appendTo, if_neg h, allLinks, List.flatMap_cons, allLinks, List.flatMap_cons]
      exact (ih.append_left _).trans List.perm_middle

/-- **The commands for the links make each of them once.**

**Proof sketch.** Each link is put into the dictionary once; sorting only changes the order. -/
theorem makeSymlinks_perm (symlink_list : List (String × Path)) :
    ((MakeSymlinks symlink_list).flatMap Line.links).Perm (symlink_list.map linked) := by
  have hdict : ∀ (l : List (String × Path)) (by_dest : List (String × List Path)),
      (allLinks (l.foldl (fun by_dest s => appendTo s.1 s.2 by_dest) by_dest)).Perm
        (l.map linked ++ allLinks by_dest) := by
    intro l
    induction l with
    | nil => exact fun by_dest => .refl _
    | cons s l ih =>
      intro by_dest
      refine (ih _).trans (((allLinks_appendTo s.1 s.2 by_dest).append_left _).trans ?_)
      exact List.perm_middle
  have hsorted : ∀ by_dest : List (String × List Path),
      ((by_dest.map fun e => Line.symlink e.1
        (e.2.mergeSort fun a b => decide (Path.text a ≤ Path.text b))).flatMap Line.links).Perm
        (allLinks by_dest) := by
    intro by_dest
    rw [List.flatMap_map, allLinks]
    exact List.Perm.flatMap_left by_dest fun e _ => (List.mergeSort_perm e.2 _).map _
  refine (hsorted _).trans (((List.mergeSort_perm _ _).flatMap_right _).trans ?_)
  exact (hdict symlink_list []).trans (by rw [allLinks, List.flatMap_nil, List.append_nil])

/-! ### The boot image -/

/-- An image of `size` octets is below the limit of its partition, if that has one. -/
def Below (size : ℕ) (fs_type : String) : Option Value → Prop
  | none => True
  | some (.text limit) => fs_type = "" ∨ limit = ""
  | some (.int limit) =>
    fs_type = "" ∨ limit = 0 ∨ spared fs_type limit < 0 ∨
      100 * (size : ℤ) < 99 * spared fs_type limit

/-- There is a boot image, and a partition for it with enough room. -/
def BootFits (info : Info) (boot_img : Option ℕ) : Prop :=
  ∃ size p, boot_img = some size ∧ info.partition "/boot" = some p ∧
    Below size p.fs_type (info.limit p)

/-- A table that has a partition is not empty, and has it under its mount point. -/
lemma Info.partition_spec {info : Info} {mount_point : String} {p : Partition}
    (h : info.partition mount_point = some p) :
    info.fstab.isEmpty = false ∧ p.mount_point = mount_point := by
  refine ⟨?_, by simpa using List.find?_some h⟩
  rw [List.isEmpty_eq_false_iff]
  exact List.ne_nil_of_mem (List.mem_of_find?_eq_some h)

/-- The check of a size does not fail if it is below the limit. -/
lemma checkLimit_isSome (size : ℕ) (fs_type : String) (limit : Option Value) :
    (checkLimit size fs_type limit).isSome ↔ Below size fs_type limit := by
  match limit with
  | none => simp [checkLimit, Below]
  | some (.text limit) => simp [checkLimit, Below]
  | some (.int limit) =>
    rw [checkLimit, Below]
    by_cases hskip : fs_type = "" ∨ limit = 0
    · rw [if_pos hskip]
      exact iff_of_true rfl (hskip.imp_right .inl)
    · rw [if_neg hskip, ← or_assoc, or_iff_right hskip]
      generalize spared fs_type limit = limit
      by_cases hbad : limit = 0 ∨ 0 < limit ∧ 99 * limit ≤ 100 * (size : ℤ)
      · simp only [if_pos hbad, Option.isSome_none, Bool.false_eq_true, false_iff]
        omega
      · simp only [if_neg hbad, Option.isSome_some, true_iff]
        omega

/-- **When the boot image passes.** There has to be a partition for it in the table, even if there
is no limit to check. -/
theorem checkSize_boot (info : Info) (size : ℕ) :
    (CheckSize size "boot.img" info).isSome ↔ BootFits info (some size) := by
  have hname : "/" ++ imageName "boot.img" = "/boot" := by decide
  have hnot : ("/boot" : String) ≠ "/userdata" := by decide
  rw [CheckSize]
  simp only [hname, if_neg hnot]
  constructor
  · intro hsome
    by_cases hempty : info.fstab.isEmpty
    · rw [if_pos hempty] at hsome
      cases hsome
    · rw [if_neg hempty] at hsome
      cases hp : info.partition "/boot" with
      | none =>
        rw [hp] at hsome
        cases hsome
      | some p =>
        rw [hp] at hsome
        exact ⟨size, p, rfl, hp, (checkLimit_isSome _ _ _).mp hsome⟩
  · rintro ⟨n, p, hn, hp, hbelow⟩
    cases hn
    rw [if_neg (by rw [(Info.partition_spec hp).1]; exact Bool.false_ne_true), hp]
    exact (checkLimit_isSome _ _ _).mpr hbelow

/-! ### When a package is made -/

/-- Where an entry goes starts with the directory of the system, and is that directory only for a
directory. -/
lemma path?_eq_some {info : ZipInfo} {path : Path} (h : info.path? = some path) :
    ∃ base, path = "system" :: base ∧ (info.slash = true ∨ base ≠ []) := by
  rw [ZipInfo.path?] at h
  split at h
  · rename_i base _
    by_cases hb : info.slash = true ∨ base ≠ []
    · rw [if_pos hb, Option.some.injEq] at h
      exact ⟨base, h.symm, hb⟩
    · rw [if_neg hb] at h
      cases h
  · cases h

/-- An entry of the system goes into its directory. -/
lemma system_below {infolist : List ZipInfo} {e : Path × Entry Leaf} (h : e ∈ system infolist) :
    ["system"] <+: e.1 ∧ (isLink e.2 = false → e.1 = ["system"] → e.2 = .dir) := by
  obtain ⟨info, -, hinfo⟩ := List.mem_filterMap.mp h
  obtain ⟨path, hpath, rfl⟩ := Option.map_eq_some_iff.mp hinfo
  obtain ⟨base, rfl, hbase⟩ := path?_eq_some hpath
  refine ⟨⟨base, rfl⟩, fun hlink heq => ?_⟩
  have hnil : base = [] := List.tail_eq_of_cons_eq heq
  have hslash : info.slash = true := hbase.resolve_right fun hne => hne hnil
  have hnot : ¬ IsSymlink info = true := by
    rw [← isLink_content]
    exact Bool.eq_false_iff.mp hlink
  have hdir := content_eq_dir hnot
  rw [hslash, decide_eq_true_eq] at hdir
  exact hdir

/-- What is on the way to a path in a directory of the root, is in that directory too. -/
lemma below_on_way {top : String} {q p : Path} (hq : q ≠ []) (hpre : q <+: p)
    (hp : [top] <+: p) : [top] <+: q := by
  obtain ⟨base, rfl⟩ := hp
  cases q with
  | nil => exact absurd rfl hq
  | cons a q =>
    obtain ⟨rfl, -⟩ := List.cons_prefix_cons.mp hpre
    exact ⟨q, rfl⟩

section Made

variable {iteritems : Dict Key → Dict Key} {info : Info} {infolist : List ZipInfo}
  {records : List (Path × Perm)} {boot_img : Option ℕ} {c : Copied}

/-- Some entry is copied. -/
def HasFile (infolist : List ZipInfo) : Prop := ∃ e ∈ system infolist, isLink e.2 = false

/-- The record has a line for each file and directory, and for the directories on the way to
them. -/
def Recorded (records : List (Path × Perm)) (infolist : List ZipInfo) : Prop :=
  ∀ e ∈ system infolist, isLink e.2 = false → ∀ p, p ≠ [] → p <+: e.1 →
    (GetMetadata records p).isSome

/-- An item for each path on the way to a file or a directory. -/
lemma Copies.item_on_way {entries : List (Path × Entry Leaf)} (h : Copies entries c)
    {e : Path × Entry Leaf} (he : e ∈ entries) (hlink : isLink e.2 = false) {p : Path}
    (hp : p <+: e.1) : ∃ d, (p.reverse, d) ∈ c.items := by
  by_cases heq : p = e.1
  · refine ⟨decide (e.2 = .dir), (h.mem_items _ _).mpr ⟨e, he, hlink, .inl ⟨?_, rfl⟩⟩⟩
    rw [List.reverse_reverse]
    exact heq
  · refine ⟨true, (h.mem_items _ _).mpr ⟨e, he, hlink, .inr ?_⟩⟩
    rw [List.reverse_reverse]
    exact ⟨hp, heq, rfl⟩

/-- If something is copied, the directory of the system is an item. -/
lemma Copies.top (h : Copies (system infolist) c) (hfile : HasFile infolist) :
    (["system"], true) ∈ c.items := by
  obtain ⟨e, he, hlink⟩ := hfile
  obtain ⟨hpre, hdir⟩ := system_below he
  refine (h.mem_items _ _).mpr ⟨e, he, hlink, ?_⟩
  by_cases heq : ["system"] = e.1
  · exact .inl ⟨heq, (decide_eq_true (hdir hlink heq.symm)).symm⟩
  · exact .inr ⟨hpre, heq, rfl⟩

/-- The items of the system are recorded, if the files and directories are. -/
lemma Copies.recorded_iff (h : Copies (system infolist) c) :
    (∀ e ∈ c.items, ["system"] <:+ e.1 → (GetMetadata records e.1.reverse).isSome) ↔
      Recorded records infolist := by
  constructor
  · intro hall e he hlink p hp hpre
    obtain ⟨d, hmem⟩ := h.item_on_way he hlink hpre
    have hsuf : ["system"] <:+ p.reverse :=
      List.reverse_prefix.mp (by
        rw [List.reverse_reverse]
        exact below_on_way hp hpre (system_below he).1)
    have hsome := hall _ hmem hsuf
    rwa [List.reverse_reverse] at hsome
  · rintro hrec ⟨m, d⟩ hmem hsuf
    obtain ⟨e, he, hlink, hcase⟩ := (h.mem_items m d).mp hmem
    have hne : m.reverse ≠ [] := by
      intro hnil
      rw [List.reverse_eq_nil_iff.mp hnil] at hsuf
      exact absurd (List.suffix_nil.mp hsuf) (List.cons_ne_nil _ _)
    refine hrec e he hlink m.reverse hne ?_
    rcases hcase with ⟨heq, -⟩ | ⟨hpre, -, -⟩
    · exact heq ▸ List.prefix_refl _
    · exact hpre

/-- Then nothing is made for it: the directory is found in the table. -/
lemma Copies.get_top (h : Copies (system infolist) c) (hfile : HasFile infolist) :
    c.items.dir? ["system"] = some true ∧ Get ["system"] false c.items = some c.items := by
  have hdir : c.items.dir? ["system"] = some true :=
    (lookup_eq_some h.closed.nodup).mpr (h.top hfile)
  refine ⟨hdir, ?_⟩
  rw [Get, if_pos (by rw [hdir]; rfl)]

/-- If only links are copied, there are no items. -/
lemma Copies.items_eq_nil (h : Copies (system infolist) c) (hfile : ¬ HasFile infolist) :
    c.items = [] := by
  refine List.eq_nil_iff_forall_not_mem.mpr fun item hmem => hfile ?_
  obtain ⟨e, he, hlink, -⟩ := (h.mem_items item.1 item.2).mp hmem
  exact ⟨e, he, hlink⟩

/-- The table has a partition for a mount point, with a file system that the tools know. -/
def Known (info : Info) (mount_point : String) : Prop :=
  ∃ p, info.partition mount_point = some p ∧ p.fs_type ∈ PARTITION_TYPES.map Prod.fst

/-- The commands that format and mount a partition. -/
def formatAndMount (p : Partition) (partition_type : String) : List Line :=
  [.format p.fs_type partition_type p.device p.length p.mount_point,
    .mount p.fs_type partition_type p.device p.mount_point]

/-- They are written for a known partition. -/
lemma format_mount_eq {p : Partition} {mount_point partition_type : String}
    (hp : info.partition mount_point = some p)
    (htype : PARTITION_TYPES.lookup p.fs_type = some partition_type) :
    ∃ format mount, FormatPartition info mount_point = some format ∧
      Mount info mount_point = some mount ∧ format ++ mount = formatAndMount p partition_type := by
  have hempty : ¬ info.fstab.isEmpty = true := by
    rw [(Info.partition_spec hp).1]
    exact Bool.false_ne_true
  refine ⟨_, _, ?_, ?_, List.singleton_append⟩
  · rw [FormatPartition, if_neg hempty, hp, Option.bind_eq_bind, Option.bind_some, htype]
    rfl
  · rw [Mount, if_neg hempty, hp, Option.bind_eq_bind, Option.bind_some, htype]
    rfl

/-- A partition of a table that is not empty is only formatted if it is known. -/
lemma known_of_format {mount_point : String} (hempty : info.fstab.isEmpty = false)
    (h : (FormatPartition info mount_point).isSome) : Known info mount_point := by
  rw [FormatPartition, if_neg (by rw [hempty]; exact Bool.false_ne_true)] at h
  cases hp : info.partition mount_point with
  | none =>
    rw [hp] at h
    cases h
  | some p =>
    refine ⟨p, hp, lookup_isSome.mp ?_⟩
    rw [hp, Option.bind_eq_bind, Option.bind_some] at h
    cases htype : PARTITION_TYPES.lookup p.fs_type with
    | none =>
      rw [htype] at h
      cases h
    | some partition_type => rfl

/-- Without an entry that is not a link, the item of the system is a file, and its permissions
cannot be set. -/
lemma writeFullOTAPackage_of_links (hcopy : CopySystemFiles infolist [] = some c)
    (h : Copies (system infolist) c) (hfile : ¬ HasFile infolist) :
    WriteFullOTAPackage iteritems info infolist records boot_img = none := by
  have hget : Get ["system"] false [] = some [([], true), (["system"], false)] := by decide
  have hdir : Items.dir? [([], true), (["system"], false)] ["system"] = some false := by decide
  have hset : ∀ fuel, SetPermissions iteritems []
      (Items.item [([], true), (["system"], false)] records fuel ["system"] false) = none := by
    intro fuel
    cases fuel <;> rfl
  rw [WriteFullOTAPackage]
  cases FormatPartition info "/system" with
  | none => rfl
  | some format =>
    cases Mount info "/system" with
    | none => rfl
    | some mount =>
      rw [hcopy]
      simp only [Option.bind_eq_bind, Option.bind_some]
      rw [h.items_eq_nil hfile, hget, Option.bind_some, hdir, Option.getD_some, hset,
        Option.bind_none, ite_self]

/-- The permissions of the system can be set, if something is copied. -/
lemma Copies.setPermissions_eq (h : Copies (system infolist) c) (hfile : HasFile infolist) :
    SetPermissions iteritems [] (c.items.item records c.items.depth ["system"] true) =
      some (recurse iteritems [] (c.items.item records c.items.depth ["system"] true) none) := by
  refine if_pos ?_
  have hdepth : 0 < c.items.depth :=
    (Nat.zero_lt_succ 0).trans_le (Items.length_le_depth (h.top hfile))
  obtain ⟨fuel, hfuel⟩ := Nat.exists_eq_succ_of_ne_zero hdepth.ne'
  rw [hfuel]
  rfl

/-- The package and its script, if something is copied and recorded. -/
lemma writeFullOTAPackage_eq {p : Partition} {partition_type : String}
    (hcopy : CopySystemFiles infolist [] = some c) (h : Copies (system infolist) c)
    (hp : info.partition "/system" = some p)
    (htype : PARTITION_TYPES.lookup p.fs_type = some partition_type) (hfile : HasFile infolist)
    (hrec : Recorded records infolist) (hboot : BootFits info boot_img) :
    WriteFullOTAPackage iteritems info infolist records boot_img = some (c.output_zip,
      formatAndMount p partition_type ++ .package_extract_dir ["system"] ["system"] ::
        MakeSymlinks c.symlinks ++
        (recurse iteritems [] (c.items.item records c.items.depth ["system"] true) none ++
          lastPermissions).map .permissions) := by
  obtain ⟨hdir, hget⟩ := h.get_top hfile
  obtain ⟨format, mount, hformat, hmount, hboth⟩ := format_mount_eq hp htype
  obtain ⟨size, b, rfl, hb, hbelow⟩ := hboot
  obtain ⟨u, hcheck⟩ :=
    Option.isSome_iff_exists.mp ((checkSize_boot info size).mpr ⟨size, b, rfl, hb, hbelow⟩)
  rw [WriteFullOTAPackage, hformat, hmount, hcopy]
  simp only [Option.bind_eq_bind, Option.bind_some, hget]
  rw [if_pos (h.recorded_iff.mpr hrec), hdir, Option.getD_some, h.setPermissions_eq hfile]
  simp only [Option.bind_some, hcheck, hboth]

/-- What has to be there for a package to be made. -/
lemma writeFullOTAPackage_isSome (hcopy : CopySystemFiles infolist [] = some c)
    (h : Copies (system infolist) c) (hfile : HasFile infolist)
    (hsome : (WriteFullOTAPackage iteritems info infolist records boot_img).isSome) :
    (FormatPartition info "/system").isSome ∧ Recorded records infolist ∧
      BootFits info boot_img := by
  obtain ⟨hdir, hget⟩ := h.get_top hfile
  rw [WriteFullOTAPackage] at hsome
  cases hformat : FormatPartition info "/system" with
  | none =>
    rw [hformat] at hsome
    cases hsome
  | some format =>
    cases hmount : Mount info "/system" with
    | none =>
      rw [hformat, hmount] at hsome
      cases hsome
    | some mount =>
      rw [hformat, hmount, hcopy] at hsome
      simp only [Option.bind_eq_bind, Option.bind_some, hget] at hsome
      have hrec : Recorded records infolist := by
        refine h.recorded_iff.mp ?_
        by_contra hnot
        rw [if_neg hnot] at hsome
        cases hsome
      rw [if_pos (h.recorded_iff.mpr hrec), hdir, Option.getD_some, h.setPermissions_eq hfile,
        Option.bind_some] at hsome
      refine ⟨rfl, hrec, ?_⟩
      cases boot_img with
      | none => cases hsome
      | some size =>
        rw [Option.bind_some] at hsome
        refine (checkSize_boot info size).mp ?_
        by_contra hnot
        rw [Option.not_isSome_iff_eq_none.mp hnot] at hsome
        cases hsome

/-- **When a package is made.** If the entries of the archive fit together, the making of the
package gets through the check of the boot image exactly when the table has the partition of the
system, with a file system that the tools know, some entry is not a link, each file and directory,
with those on the way to it, has a line in the record, and the boot image is below the limit of the
partition that the table has for it.

**Proof sketch.** The copies never fail, by `copySystemFiles_spec`. Without an entry that is not a
link the item of the system is a file, of which no permissions can be set. An empty table only ends
the making of the package at the check of the boot image. -/
theorem fullPackage_made_iff (hfit : Fits (system infolist)) :
    (WriteFullOTAPackage iteritems info infolist records boot_img).isSome ↔
      Known info "/system" ∧ HasFile infolist ∧ Recorded records infolist ∧
        BootFits info boot_img := by
  obtain ⟨c, hcopy, h⟩ := copySystemFiles_spec hfit
  constructor
  · intro hsome
    have hfile : HasFile infolist := by
      by_contra hnot
      rw [writeFullOTAPackage_of_links hcopy h hnot] at hsome
      cases hsome
    obtain ⟨hformat, hrec, hboot⟩ := writeFullOTAPackage_isSome hcopy h hfile hsome
    obtain ⟨-, b, -, hb, -⟩ := id hboot
    exact ⟨known_of_format (Info.partition_spec hb).1 hformat, hfile, hrec, hboot⟩
  · rintro ⟨⟨p, hp, hknown⟩, hfile, hrec, hboot⟩
    obtain ⟨partition_type, htype⟩ := Option.isSome_iff_exists.mp (lookup_isSome.mpr hknown)
    rw [writeFullOTAPackage_eq hcopy h hp htype hfile hrec hboot]
    rfl

end Made

/-- Two programs and a tool in directories without an entry of their own, an empty directory, a
link, and an entry that is not of the system. -/
def sampleArchive : List ZipInfo :=
  [⟨["SYSTEM", "bin", "sh"], false, 0, "shell"⟩, ⟨["SYSTEM", "bin", "pppd"], false, 0, "daemon"⟩,
    ⟨["SYSTEM", "xbin", "usb_modeswitch"], false, 0, "tool"⟩, ⟨["SYSTEM", "etc"], true, 0, ""⟩,
    ⟨["SYSTEM", "bin", "ls"], false, 0xa1ff0000, "sh"⟩, ⟨["META", "misc"], false, 0, ""⟩]

/-- A record for it. -/
def sampleRecord : List (Path × Perm) :=
  [(["system"], ⟨0, 0, 0o755⟩), (["system", "bin"], ⟨0, 2000, 0o755⟩),
    (["system", "bin", "sh"], ⟨0, 2000, 0o755⟩), (["system", "bin", "pppd"], ⟨0, 0, 0o644⟩),
    (["system", "xbin"], ⟨0, 2000, 0o755⟩),
    (["system", "xbin", "usb_modeswitch"], ⟨0, 0, 0o644⟩), (["system", "etc"], ⟨0, 0, 0o755⟩)]

/-- A partition for the system, and one of eight megabytes for the boot image. -/
def sampleInfo : Info where
  fstab := [⟨"/system", "ext4", "/dev/block/actb", 0⟩, ⟨"/boot", "emmc", "/dev/block/boot", 0⟩]
  sizes := [("boot_size", .int 8388608)]

/-- The entries of the archive fit together. -/
lemma sampleArchive_fits : Fits (system sampleArchive) := ⟨by decide, by decide⟩

/-- The record has a line for each of them. -/
lemma sampleRecord_recorded : Recorded sampleRecord sampleArchive := by
  have h : ∀ e ∈ system sampleArchive, isLink e.2 = false → ∀ p ∈ e.1.inits, p ≠ [] →
      (GetMetadata sampleRecord p).isSome := by decide
  intro e he hlink p hp hpre
  exact h e he hlink p ((List.mem_inits p e.1).mpr hpre) hp

/-- A boot image of five megabytes has enough room. -/
lemma sampleInfo_bootFits : BootFits sampleInfo (some 5242880) := by
  refine ⟨_, _, rfl, rfl, ?_⟩
  have hlimit : sampleInfo.limit ⟨"/boot", "emmc", "/dev/block/boot", 0⟩ = some (.int 8388608) := by
    rfl
  rw [hlimit, Below]
  exact .inr (.inr (.inr (by decide)))

theorem fullPackage_made_iff_sample :
    (WriteFullOTAPackage id sampleInfo sampleArchive sampleRecord (some 5242880)).isSome ↔
      Known sampleInfo "/system" ∧ HasFile sampleArchive ∧ Recorded sampleRecord sampleArchive ∧
        BootFits sampleInfo (some 5242880) :=
  fullPackage_made_iff sampleArchive_fits

end Release
