import Gs702aHal.Release.FullPackage

set_option relaxedAutoImplicit false
set_option autoImplicit false

/-!
# The installation of a full update package

The script of a full package is run by an updater, a program that comes with the archive. What the
script relies on of it are the effects of its commands: a partition that has been formatted and
mounted is there and empty, the files of a directory of the package are unpacked into an empty
directory, links are made, and owners and modes are set for what is there. With such an updater the
device has the system of the archive when the script has run.

A command for a path that is in the way may fail: a file where a directory should be made, or the
other way round. Nothing is said of the permissions of links, nor of what a command does to a path
that it names and that is not there.

## Main definitions

* `Release.Device` — what is on a device, and with which permissions.
* `Release.Updater`, `Release.Mounts` — what the script relies on of the updater.
* `Release.runScript` — the commands of a script, one after the other.

## Main results

* `Release.fullPackage_installs` — the script puts the system of the archive on the device.
-/

namespace Release

open FileTree

/-! ### The device -/

/-- What is on a device, and with which permissions. -/
structure Device where
  content : Tree String Leaf
  perm : Path → Perm

/-- Whether a path is that of a directory. -/
def Device.isDir (d : Device) (p : Path) : Bool := decide (d.content p = some .dir)

/-- A file or a directory is there. -/
def Device.Holds (d : Device) (p : Path) : Prop := ∃ x, d.content p = some x ∧ isLink x = false

/-- An empty directory is there. -/
def Device.Empty (d : Device) (p : Path) : Prop :=
  d.content p = some .dir ∧ ∀ q, p <+: q → q ≠ p → d.content q = none

/-- The path that a command names. -/
def Command.path : Command → Path
  | .set_perm _ _ _ path => path
  | .set_perm_recursive _ _ _ _ path => path

/-- What a command names is there, as a directory if the command is for all that is below it. -/
def Device.Has (d : Device) : Command → Prop
  | .set_perm _ _ _ path => d.Holds path
  | .set_perm_recursive _ _ _ _ path => d.content path = some .dir

/-- Where a directory of the package is unpacked to, an entry of it goes there. -/
def extracted (src dst : Path) (info : ZipInfo) : Option (Path × Entry Leaf) :=
  if src <+: info.filename then some (dst ++ info.filename.drop src.length, (unpacked info).2)
  else none

/-- A partition that has been formatted has its mount point and nothing below. -/
def formatted (mount_point : Path) (t : Tree String Leaf) : Tree String Leaf := fun p =>
  if mount_point <+: p then if p = mount_point then some .dir else none else t p

/-! ### The updater -/

/-- What the commands of a script do with a package to a device, if they do not fail. -/
abbrev Update := List ZipInfo → Device → Line → Option Device

/-- The commands of a script, one after the other. -/
def runScript (update : Update) (package : List ZipInfo) (script : List Line) (d : Device) :
    Option Device :=
  script.foldlM (update package) d

/-- What a script relies on of the updater. A command changes the permissions of nothing that is
there and that it does not name. -/
structure Updater (update : Update) : Prop where
  package_extract_dir : ∀ package d src dst t, d.Empty dst →
    putAll (package.filterMap (extracted src dst)) d.content = some t →
    ∃ d', update package d (.package_extract_dir src dst) = some d' ∧ d'.content = t ∧
      ∀ p, (d.content p).isSome → ¬ dst <+: p → d'.perm p = d.perm p
  symlink : ∀ package d dest links t,
    putAll (links.map fun l => linked (dest, l)) d.content = some t →
    ∃ d', update package d (.symlink dest links) = some d' ∧ d'.content = t ∧
      ∀ p, (d.content p).isSome → p ∉ links → d'.perm p = d.perm p
  permissions : ∀ package d c, d.Has c →
    ∃ d', update package d (.permissions c) = some d' ∧ d'.content = d.content ∧
      ∀ p, d.Holds p ∨ (d.content p).isSome ∧ ¬ c.path <+: p →
        d'.perm p = exec d.isDir d.perm c p

/-- The updater makes an empty file system on a partition, and mounts it at a path. -/
def Mounts (update : Update) (p : Partition) (partition_type : String) (path : Path) : Prop :=
  ∀ package d, ∃ d', runScript update package (formatAndMount p partition_type) d = some d' ∧
    d'.content = formatted path d.content ∧
    ∀ q, (d.content q).isSome → ¬ path <+: q → d'.perm q = d.perm q

/-- What a path of the system gets from the script. -/
def granted (records : List (Path × Perm)) (path : Path) : Option Perm :=
  if path = ["system", "bin", "pppd"] ∨ path = ["system", "xbin", "usb_modeswitch"] then
    some ⟨0, 2000, 0o755⟩
  else GetMetadata records path

/-- The two programs that get their permissions in any case are files of the archive. -/
def HasPrograms (infolist : List ZipInfo) : Prop :=
  ∀ c ∈ lastPermissions, ∃ e ∈ system infolist, e.1 = c.path ∧ isLink e.2 = false

/-! ### What the commands do -/

section Runs

variable {update : Update} {package : List ZipInfo}

/-- Two scripts, one after the other. -/
lemma runScript_append (a b : List Line) (d : Device) :
    runScript update package (a ++ b) d =
      (runScript update package a d).bind (runScript update package b) :=
  List.foldlM_append

/-- The commands for the links put them, one after the other. -/
lemma runScript_links (hu : Updater update) {script : List Line}
    (hs : ∀ l ∈ script, ∃ dest links, l = .symlink dest links) {d : Device}
    {t : Tree String Leaf} (hput : putAll (script.flatMap Line.links) d.content = some t) :
    ∃ d', runScript update package script d = some d' ∧ d'.content = t ∧
      ∀ p, (d.content p).isSome → (∀ e ∈ script.flatMap Line.links, e.1 ≠ p) →
        d'.perm p = d.perm p := by
  induction script generalizing d with
  | nil =>
    refine ⟨d, rfl, ?_, fun p _ _ => rfl⟩
    exact Option.some.inj hput
  | cons l script ih =>
    obtain ⟨dest, links, rfl⟩ := hs l (by simp)
    rw [List.flatMap_cons, putAll_append] at hput
    obtain ⟨t₁, hfirst, hrest⟩ := Option.bind_eq_some_iff.mp hput
    obtain ⟨d₁, hstep, hcontent, hperm⟩ := hu.symlink package d dest links t₁ hfirst
    rw [← hcontent] at hrest
    obtain ⟨d', hrun, hfinal, hkeep⟩ := ih (fun l hl => hs l (List.mem_cons_of_mem _ hl)) hrest
    refine ⟨d', ?_, hfinal, fun p hp hnot => ?_⟩
    · rw [runScript, List.foldlM_cons, hstep]
      exact hrun
    · rw [List.flatMap_cons, List.forall_mem_append] at hnot
      have hthere : (d₁.content p).isSome := by
        rw [hcontent]
        exact putAll_isSome hfirst hp
      have hlinks : p ∉ links := fun hmem => hnot.1 _ (List.mem_map_of_mem hmem) rfl
      rw [hkeep p hthere hnot.2, hperm p hp hlinks]

/-- The commands for the permissions change nothing else. -/
lemma runScript_permissions (hu : Updater update) {commands : List Command} {d : Device}
    (hc : ∀ c ∈ commands, d.Has c) :
    ∃ d', runScript update package (commands.map .permissions) d = some d' ∧
      d'.content = d.content ∧
      ∀ p, d.Holds p ∨ (d.content p).isSome ∧ (∀ c ∈ commands, ¬ c.path <+: p) →
        d'.perm p = run d.isDir commands d.perm p := by
  induction commands generalizing d with
  | nil => exact ⟨d, rfl, rfl, fun p _ => rfl⟩
  | cons c commands ih =>
    rw [List.forall_mem_cons] at hc
    obtain ⟨d₁, hstep, hcontent, hperm⟩ := hu.permissions package d c hc.1
    have hdir : d₁.isDir = d.isDir := by
      funext p
      rw [Device.isDir, Device.isDir, hcontent]
    have hhas : ∀ c ∈ commands, d₁.Has c := by
      intro c' hc'
      have hthere := hc.2 c' hc'
      cases c' with
      | set_perm uid gid mode path => rwa [Device.Has, Device.Holds, hcontent]
      | set_perm_recursive uid gid dmode fmode path => rwa [Device.Has, hcontent]
    obtain ⟨d', hrun, hfinal, hset⟩ := ih hhas
    refine ⟨d', ?_, hfinal.trans hcontent, fun p hp => ?_⟩
    · rw [List.map_cons, runScript, List.foldlM_cons, hstep]
      exact hrun
    · rw [List.forall_mem_cons] at hp
      have hfirst := hperm p (hp.imp_right fun h => ⟨h.1, h.2.1⟩)
      have hlast : d₁.Holds p ∨ (d₁.content p).isSome ∧ ∀ c ∈ commands, ¬ c.path <+: p := by
        rw [Device.Holds, hcontent]
        exact hp.imp_right fun h => ⟨h.1, h.2.2⟩
      rw [hset p hlast, hdir]
      exact run_congr d.isDir commands hfirst

end Runs

/-- What is below a directory of the package is unpacked where it is. -/
lemma filterMap_extracted {package : List ZipInfo}
    (h : ∀ e ∈ package.map unpacked, ["system"] <+: e.1) :
    package.filterMap (extracted ["system"] ["system"]) = package.map unpacked := by
  induction package with
  | nil => rfl
  | cons info package ih =>
    rw [List.map_cons, List.forall_mem_cons] at h
    obtain ⟨base, hbase⟩ := h.1
    have hinfo : extracted ["system"] ["system"] info = some (unpacked info) := by
      rw [extracted, if_pos (show ["system"] <+: info.filename from h.1)]
      have hdrop : ["system"] ++ info.filename.drop ["system"].length = info.filename := by
        have hname : info.filename = ["system"] ++ base := hbase.symm
        rw [hname, List.drop_left]
      rw [hdrop]
      rfl
    rw [List.filterMap_cons_some hinfo, ih h.2, List.map_cons]

/-- Only the mount point is there below it. -/
lemma formatted_below {mount_point p : Path} (t : Tree String Leaf) (h : mount_point <+: p) :
    formatted mount_point t p = none ∨ formatted mount_point t p = some .dir := by
  rw [formatted, if_pos h]
  by_cases heq : p = mount_point
  · exact .inr (if_pos heq)
  · exact .inl (if_neg heq)

/-- There is nothing else. -/
lemma formatted_empty (mount_point : Path) (t : Tree String Leaf) :
    formatted mount_point t mount_point = some .dir ∧
      ∀ q, mount_point <+: q → q ≠ mount_point → formatted mount_point t q = none := by
  constructor
  · rw [formatted, if_pos (List.prefix_refl _), if_pos rfl]
  · intro q hq hne
    rw [formatted, if_pos hq, if_neg hne]

/-- A formatted partition takes the system of an archive. -/
lemma takes_formatted {infolist : List ZipInfo} (hfit : Fits (system infolist))
    (hfile : HasFile infolist) (t : Tree String Leaf) :
    ∀ e ∈ system infolist, Takes (formatted ["system"] t) e.1 e.2 := by
  intro e he
  have hbelow := (system_below he).1
  refine ⟨fun q hq hnil _ => ?_, fun hdir => ?_, fun _ => formatted_below t hbelow⟩
  · exact formatted_below t (below_on_way hnil ((List.mem_inits q e.1).mp hq) hbelow)
  · have htop : e.1 = ["system"] := by
      by_contra hne
      rw [formatted, if_pos hbelow, if_neg hne] at hdir
      cases hdir
    obtain ⟨f, hf, hlink⟩ := hfile
    by_cases hfe : e.1 = f.1
    · have hsame : some e.2 = some f.2 := by
        rw [← (lookup_eq_some hfit.nodup).mpr he, hfe, (lookup_eq_some hfit.nodup).mpr hf]
      rw [Option.some.inj hsame]
      exact (system_below hf).2 hlink (hfe ▸ htop)
    · exact hfit.above e he f hf (htop ▸ (system_below hf).1) hfe

/-- What the system of an archive is on a partition that has been formatted. -/
lemma laidOver_formatted {infolist : List ZipInfo} (hfile : HasFile infolist)
    (t : Tree String Leaf) (p : Path) :
    laidOver (system infolist) (formatted ["system"] t) p =
      if ["system"] <+: p then laidOver (system infolist) (fun _ => none) p else t p := by
  by_cases hp : ["system"] <+: p
  · rw [if_pos hp, laidOver, laidOver]
    cases hl : (system infolist).lookup p with
    | some x => rfl
    | none =>
      rw [Option.orElse_none, Option.orElse_none, formatted, if_pos hp]
      by_cases htop : p = ["system"]
      · obtain ⟨f, hf, -⟩ := hfile
        have hany : p ≠ [] ∧ (none : Option (Entry Leaf)).isNone ∧
            ∃ e ∈ system infolist, p <+: e.1 :=
          ⟨by rw [htop]; exact List.cons_ne_nil _ _, rfl, f, hf, htop ▸ (system_below hf).1⟩
        rw [if_pos htop, if_pos hany]
        exact if_neg fun h => by cases h.2.1
      · rw [if_neg htop]
  · rw [if_neg hp, laidOver_frame, formatted, if_neg hp]
    intro e he
    have hbelow := (system_below he).1
    exact ⟨fun heq => hp (heq ▸ hbelow), fun hnil hpre => hp (below_on_way hnil hpre hbelow)⟩

/-- What the last commands set. -/
lemma run_lastPermissions (isDir : Path → Bool) (fs : Path → Perm) {records : List (Path × Perm)}
    {p : Path} (h : GetMetadata records p = some (fs p)) :
    granted records p = some (run isDir lastPermissions fs p) := by
  rw [lastPermissions, ← List.singleton_append, run_append, granted]
  by_cases husb : p = ["system", "xbin", "usb_modeswitch"]
  · rw [if_pos (.inr husb), husb, run_ownCommand_self]
  · rw [run_ownCommand_frame isDir _ _ husb]
    by_cases hppp : p = ["system", "bin", "pppd"]
    · rw [if_pos (.inl hppp), hppp, run_ownCommand_self]
    · rw [run_ownCommand_frame isDir _ _ hppp, if_neg fun h => h.elim hppp husb, h]

/-- They set nothing outside of the system. -/
lemma run_lastPermissions_frame (isDir : Path → Bool) (fs : Path → Perm) {p : Path}
    (h : ¬ ["system"] <+: p) : run isDir lastPermissions fs p = fs p := by
  have hne : ∀ base, p ≠ "system" :: base := fun base heq => h ⟨base, heq.symm⟩
  rw [lastPermissions, ← List.singleton_append, run_append,
    run_ownCommand_frame isDir _ _ (hne _), run_ownCommand_frame isDir _ _ (hne _)]

/-! ### The installation -/

section Installation

variable {infolist : List ZipInfo} {c : Copied}

/-- The files and the links are the entries in another order. -/
lemma Copies.perm_entries (h : Copies (system infolist) c) :
    (c.output_zip.map unpacked ++ (MakeSymlinks c.symlinks).flatMap Line.links).Perm
      (system infolist) := by
  rw [h.output_zip]
  exact ((((makeSymlinks_perm c.symlinks).trans h.symlinks).append_left _).trans
    List.perm_append_comm).trans
      (List.filter_append_perm (fun e : Path × Entry Leaf => isLink e.2) _)

/-- The commands for the files and the links put the system of the archive on the device. -/
lemma runScript_files {update : Update} (hu : Updater update) (h : Copies (system infolist) c)
    (hfit : Fits (system infolist)) (hfile : HasFile infolist) {d : Device}
    {t : Tree String Leaf} (hd : d.content = formatted ["system"] t) :
    ∃ d', runScript update c.output_zip (.package_extract_dir ["system"] ["system"] ::
        MakeSymlinks c.symlinks) d = some d' ∧
      d'.content = laidOver (system infolist) (formatted ["system"] t) ∧
      ∀ p, (d.content p).isSome → ¬ ["system"] <+: p → d'.perm p = d.perm p := by
  have hperm := h.perm_entries
  have hbelow : ∀ e ∈ c.output_zip.map unpacked ++ (MakeSymlinks c.symlinks).flatMap Line.links,
      ["system"] <+: e.1 := fun e he => (system_below (hperm.mem_iff.mp he)).1
  have hall : putAll (c.output_zip.map unpacked ++
      (MakeSymlinks c.symlinks).flatMap Line.links) d.content =
      some (laidOver (system infolist) (formatted ["system"] t)) := by
    have hfit' := hfit.perm hperm.symm
    rw [hd, putAll_eq hfit' fun e he => takes_formatted hfit hfile _ e (hperm.mem_iff.mp he),
      laidOver_perm hfit' hperm]
  rw [putAll_append] at hall
  obtain ⟨t₁, hfiles, hlinks⟩ := Option.bind_eq_some_iff.mp hall
  rw [List.forall_mem_append] at hbelow
  have hextract : putAll (c.output_zip.filterMap (extracted ["system"] ["system"])) d.content =
      some t₁ := by
    rw [filterMap_extracted hbelow.1]
    exact hfiles
  have hempty : d.Empty ["system"] := by
    rw [Device.Empty, hd]
    exact formatted_empty ["system"] t
  obtain ⟨d₁, hstep, hcontent, hkeep⟩ :=
    hu.package_extract_dir c.output_zip d _ _ t₁ hempty hextract
  rw [← hcontent] at hlinks
  obtain ⟨d', hrun, hfinal, hkeep'⟩ := runScript_links hu
    (fun l hl => by
      obtain ⟨e, -, rfl⟩ := List.mem_map.mp hl
      exact ⟨_, _, rfl⟩) hlinks
  refine ⟨d', ?_, hfinal, fun p hp hout => ?_⟩
  · rw [runScript, List.foldlM_cons, hstep]
    exact hrun
  · have hthere : (d₁.content p).isSome := by
      rw [hcontent]
      exact putAll_isSome hfiles hp
    rw [hkeep' p hthere fun e he heq => hout (heq ▸ hbelow.2 e he), hkeep p hp hout]

/-- The items are on the device as what they are in the table. -/
lemma Copies.at_item (h : Copies (system infolist) c) (hfit : Fits (system infolist))
    (t : Tree String Leaf) {m : Name} {dir : Bool} (hmem : (m, dir) ∈ c.items)
    (hsuf : ["system"] <:+ m) :
    ∃ x, laidOver (system infolist) (formatted ["system"] t) m.reverse = some x ∧
      isLink x = false ∧ decide (x = .dir) = dir := by
  have hbelow : ["system"] <+: m.reverse := List.reverse_prefix.mpr hsuf
  obtain ⟨e, he, hlink, ⟨heq, hdir⟩ | ⟨hpre, hne, hdir⟩⟩ := (h.mem_items m dir).mp hmem
  · refine ⟨e.2, ?_, hlink, hdir.symm⟩
    rw [heq, laidOver_of_mem hfit he]
  · have hnil : m.reverse ≠ [] := fun hnil => by
      rw [hnil] at hbelow
      exact absurd (List.prefix_nil.mp hbelow) (List.cons_ne_nil _ _)
    exact ⟨.dir, laidOver_of_above hfit he hnil hpre hne (formatted_below t hbelow), rfl,
      hdir ▸ rfl⟩

/-- The tree of the table has a node for each item of the system. -/
lemma Copies.mem_nodes (records : List (Path × Perm)) (h : Copies (system infolist) c)
    (hfile : HasFile infolist) (n : Node) :
    n ∈ (c.items.item records c.items.depth ["system"] true).nodes [] ↔
      ∃ m dir, (m, dir) ∈ c.items ∧ ["system"] <:+ m ∧
        n = ⟨m.reverse, dir, (GetMetadata records m.reverse).getD ⟨0, 0, 0⟩⟩ := by
  refine Items.nodes_item h.closed (h.top hfile) (fun m dir hm _ => ?_) n
  rw [List.length_nil, Nat.zero_add]
  exact Items.length_le_depth hm

/-- The commands for the permissions give the items of the system what the record says. -/
lemma run_recurse_items (iteritems : Dict Key → Dict Key) (records : List (Path × Perm))
    (h : Copies (system infolist) c) (hfile : HasFile infolist) (isDir : Path → Bool)
    (hdir : ∀ m dir, (m, dir) ∈ c.items → ["system"] <:+ m → isDir m.reverse = dir)
    (fs : Path → Perm) :
    (∀ m dir, (m, dir) ∈ c.items → ["system"] <:+ m →
      run isDir (recurse iteritems [] (c.items.item records c.items.depth ["system"] true) none) fs
        m.reverse = (GetMetadata records m.reverse).getD ⟨0, 0, 0⟩) ∧
    ∀ p, ¬ ["system"] <+: p →
      run isDir (recurse iteritems [] (c.items.item records c.items.depth ["system"] true) none) fs
        p = fs p := by
  have hnodes := h.mem_nodes records hfile
  have hpresent :
      (c.items.item records c.items.depth ["system"] true).Present isDir [] := by
    intro n hn
    obtain ⟨m, dir, hm, hsuf, rfl⟩ := (hnodes n).mp hn
    exact hdir m dir hm hsuf
  obtain ⟨hset, hframe⟩ := recurse_spec iteritems isDir []
    (c.items.item records c.items.depth ["system"] true) none fs (Items.distinct_item h.closed)
    hpresent fun s hs => by cases hs
  constructor
  · intro m dir hm hsuf
    exact hset _ ((hnodes _).mpr ⟨m, dir, hm, hsuf, rfl⟩)
  · intro p hp
    refine hframe p ?_
    rw [Items.name_item]
    exact hp

/-- With the last commands, each of them gets what it should, and nothing else changes. -/
lemma run_commands (iteritems : Dict Key → Dict Key) (records : List (Path × Perm))
    (h : Copies (system infolist) c) (hfile : HasFile infolist) (isDir : Path → Bool)
    (hdir : ∀ m dir, (m, dir) ∈ c.items → ["system"] <:+ m → isDir m.reverse = dir)
    (fs : Path → Perm) :
    (∀ p dir perm, (p.reverse, dir) ∈ c.items → ["system"] <+: p →
      GetMetadata records p = some perm →
      granted records p = some (run isDir
        (recurse iteritems [] (c.items.item records c.items.depth ["system"] true) none ++
          lastPermissions) fs p)) ∧
    ∀ p, ¬ ["system"] <+: p →
      run isDir (recurse iteritems [] (c.items.item records c.items.depth ["system"] true) none ++
        lastPermissions) fs p = fs p := by
  obtain ⟨hitems, hframe⟩ := run_recurse_items iteritems records h hfile isDir hdir fs
  constructor
  · intro p dir perm hmem hbelow hperm
    have hset := hitems p.reverse dir hmem (List.reverse_suffix.mpr hbelow)
    rw [List.reverse_reverse, hperm, Option.getD_some] at hset
    rw [run_append]
    exact run_lastPermissions isDir _ (hperm.trans (congrArg some hset.symm))
  · intro p hp
    rw [run_append, run_lastPermissions_frame isDir _ hp]
    exact hframe p hp

/-- The commands name what is there, below the directory of the system. -/
lemma has_commands (iteritems : Dict Key → Dict Key) (records : List (Path × Perm))
    (h : Copies (system infolist) c) (hfit : Fits (system infolist)) (hfile : HasFile infolist)
    (hprog : HasPrograms infolist) {d : Device} {t : Tree String Leaf}
    (hd : d.content = laidOver (system infolist) (formatted ["system"] t)) :
    ∀ command ∈
      recurse iteritems [] (c.items.item records c.items.depth ["system"] true) none ++
        lastPermissions, d.Has command ∧ ["system"] <+: command.path := by
  rw [List.forall_mem_append]
  constructor
  · refine forall_recurse iteritems [] _ none fun n hn => ?_
    obtain ⟨m, dir, hm, hsuf, rfl⟩ := (h.mem_nodes records hfile n).mp hn
    obtain ⟨x, hx, hlink, hdir⟩ := h.at_item hfit t hm hsuf
    rw [← hd] at hx
    refine ⟨fun perm => ⟨⟨x, hx, hlink⟩, List.reverse_prefix.mpr hsuf⟩, fun htrue s => ?_⟩
    refine ⟨hx.trans (congrArg some (of_decide_eq_true (hdir.trans htrue))), ?_⟩
    exact List.reverse_prefix.mpr hsuf
  · intro command hcommand
    obtain ⟨e, he, hpath, hlink⟩ := hprog command hcommand
    have hthere : d.Holds command.path := ⟨e.2, by rw [hd, ← hpath, laidOver_of_mem hfit he], hlink⟩
    refine ⟨?_, hpath ▸ (system_below he).1⟩
    rw [lastPermissions, List.mem_pair] at hcommand
    rcases hcommand with rfl | rfl
    · exact hthere
    · exact hthere

end Installation

/-- **The script puts the system of the archive on the device.** Let the table have the partition of
the system, with a file system that the tools know, and a partition with enough room for the boot
image. Let the entries of the archive fit together, the two programs that get their permissions in
any case be files among them, and let the record have a line for each file and directory and for
those on the way to them. Then a package is made. Its commands run to their end on every device with
an updater that mounts the partition: what is in the directory of the system is then what the
archive has, each file and directory has its owner, group and mode, and nothing else has changed.

**Proof sketch.** The files and the links are the entries in another order, so that `putAll_eq` and
`laidOver_perm` say what is there. The tree of the table has a node for each item, and every item is
on the device as what it is in the table, so that `recurse_spec` says what permissions it has. -/
theorem fullPackage_installs (iteritems : Dict Key → Dict Key) {update : Update}
    (hu : Updater update) {info : Info} {p : Partition} {partition_type : String}
    (hp : info.partition "/system" = some p)
    (htype : PARTITION_TYPES.lookup p.fs_type = some partition_type)
    (hmount : Mounts update p partition_type ["system"]) {infolist : List ZipInfo}
    {records : List (Path × Perm)} {boot_img : Option ℕ} (hboot : BootFits info boot_img)
    (hfit : Fits (system infolist)) (hprog : HasPrograms infolist)
    (hrec : Recorded records infolist) :
    ∃ package script,
      WriteFullOTAPackage iteritems info infolist records boot_img = some (package, script) ∧
      ∀ d, ∃ d', runScript update package script d = some d' ∧
        (∀ p, d'.content p =
          if ["system"] <+: p then laidOver (system infolist) (fun _ => none) p
          else d.content p) ∧
        (∀ e ∈ system infolist, isLink e.2 = false → ∀ p, p ≠ [] → p <+: e.1 →
          granted records p = some (d'.perm p)) ∧
        ∀ p, (d.content p).isSome → ¬ ["system"] <+: p → d'.perm p = d.perm p := by
  obtain ⟨c, hcopy, h⟩ := copySystemFiles_spec hfit
  have hfile : HasFile infolist := by
    obtain ⟨e, he, -, hlink⟩ := hprog _ (List.mem_cons_self ..)
    exact ⟨e, he, hlink⟩
  refine ⟨_, _, writeFullOTAPackage_eq hcopy h hp htype hfile hrec hboot, fun d => ?_⟩
  obtain ⟨d₁, hrun₁, hcontent₁, hperm₁⟩ := hmount c.output_zip d
  obtain ⟨d₂, hrun₂, hcontent₂, hperm₂⟩ := runScript_files hu h hfit hfile hcontent₁
  have hhas := has_commands iteritems records h hfit hfile hprog hcontent₂
  obtain ⟨d₃, hrun₃, hcontent₃, hperm₃⟩ := runScript_permissions hu fun c hc => (hhas c hc).1
  obtain ⟨hset, hframe⟩ := run_commands iteritems records h hfile d₂.isDir
    (fun m dir hm hsuf => by
      obtain ⟨x, hx, -, hdir⟩ := h.at_item hfit d.content hm hsuf
      rw [Device.isDir, hcontent₂, hx, ← hdir]
      exact decide_eq_decide.mpr Option.some_inj) d₂.perm
  have hcontent : ∀ q, d₃.content q =
      if ["system"] <+: q then laidOver (system infolist) (fun _ => none) q
      else d.content q := by
    intro q
    rw [hcontent₃, hcontent₂, laidOver_formatted hfile]
  refine ⟨d₃, ?_, hcontent, fun e he hlink q hq hpre => ?_, fun q hq hout => ?_⟩
  · rw [runScript_append, runScript_append, hrun₁, Option.bind_some, hrun₂, Option.bind_some]
    exact hrun₃
  · obtain ⟨dir, hmem⟩ := h.item_on_way he hlink hpre
    have hbelow := below_on_way hq hpre (system_below he).1
    obtain ⟨perm, hperm⟩ := Option.isSome_iff_exists.mp (hrec e he hlink q hq hpre)
    obtain ⟨x, hx, hxlink, -⟩ := h.at_item hfit d.content hmem (List.reverse_suffix.mpr hbelow)
    rw [List.reverse_reverse, ← hcontent₂] at hx
    rw [hperm₃ q (.inl ⟨x, hx, hxlink⟩)]
    exact hset q dir perm hmem hbelow hperm
  · -- what is outside is still there before the permissions are set
    have hout₁ : (d₁.content q).isSome := by rwa [hcontent₁, formatted, if_neg hout]
    have hout₂ : (d₂.content q).isSome := by
      rwa [← hcontent₃, hcontent, if_neg hout]
    rw [hperm₃ q (.inr ⟨hout₂, fun c hc hpre => hout ((hhas c hc).2.trans hpre)⟩), hframe q hout,
      hperm₂ q hout₁ hout, hperm₁ q hq hout]

/-- An updater for a device on which only the partition of the system can be mounted. -/
def sampleUpdate : Update := fun package d line =>
  match line with
  | .format _ _ _ _ mount_point =>
    if mount_point = "/system" then
      some { d with content := formatted ["system"] d.content }
    else none
  | .mount _ _ _ mount_point => if mount_point = "/system" then some d else none
  | .package_extract_dir src dst =>
    (putAll (package.filterMap (extracted src dst)) d.content).map fun t => { d with content := t }
  | .symlink dest links =>
    (putAll (links.map fun l => linked (dest, l)) d.content).map fun t => { d with content := t }
  | .permissions c => some { d with perm := exec d.isDir d.perm c }

/-- It does what the script relies on. -/
lemma sampleUpdate_updater : Updater sampleUpdate where
  package_extract_dir package d src dst t _ ht :=
    ⟨{ d with content := t }, by rw [sampleUpdate, ht]; rfl, rfl, fun p _ _ => rfl⟩
  symlink package d dest links t ht :=
    ⟨{ d with content := t }, by rw [sampleUpdate, ht]; rfl, rfl, fun p _ _ => rfl⟩
  permissions package d c _ := ⟨_, rfl, rfl, fun p _ => rfl⟩

/-- It mounts the partition of the system. -/
lemma sampleUpdate_mounts :
    Mounts sampleUpdate ⟨"/system", "ext4", "/dev/block/actb", 0⟩ "EMMC" ["system"] :=
  fun _ d => ⟨{ d with content := formatted ["system"] d.content }, rfl, rfl, fun _ _ _ => rfl⟩

/-- The two programs are in the archive. -/
lemma sampleArchive_hasPrograms : HasPrograms sampleArchive := by
  intro c hc
  rw [lastPermissions, List.mem_pair] at hc
  rcases hc with rfl | rfl
  · exact ⟨(["system", "bin", "pppd"], .leaf (.file "daemon")), by decide, rfl, rfl⟩
  · exact ⟨(["system", "xbin", "usb_modeswitch"], .leaf (.file "tool")), by decide, rfl, rfl⟩

/-- The programs, the directories and the link are on the device. -/
theorem fullPackage_installs_sample :
    ∃ package script,
      WriteFullOTAPackage id sampleInfo sampleArchive sampleRecord (some 5242880) =
        some (package, script) ∧
      ∀ d, ∃ d', runScript sampleUpdate package script d = some d' ∧
        (∀ p, d'.content p =
          if ["system"] <+: p then laidOver (system sampleArchive) (fun _ => none) p
          else d.content p) ∧
        (∀ e ∈ system sampleArchive, isLink e.2 = false → ∀ p, p ≠ [] → p <+: e.1 →
          granted sampleRecord p = some (d'.perm p)) ∧
        ∀ p, (d.content p).isSome → ¬ ["system"] <+: p → d'.perm p = d.perm p :=
  fullPackage_installs id sampleUpdate_updater rfl rfl sampleUpdate_mounts sampleInfo_bootFits
    sampleArchive_fits sampleArchive_hasPrograms sampleRecord_recorded

end Release
