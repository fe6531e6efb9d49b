import Mathlib.Algebra.Order.Ring.Nat
import Mathlib.Data.List.Nodup
import Mathlib.Logic.Function.Basic

set_option relaxedAutoImplicit false
set_option autoImplicit false

/-!
# Doubly linked lists

A list that is threaded through the nodes of a store: every node names its two neighbours, and two
ends are kept for the whole list. A node is added in front, and any node is taken out without a
search. Several lists may be threaded through one store.

## Main definitions

* `LinkedList.Node`, `LinkedList.Ends` — the neighbours of a node and the ends of a list.
* `LinkedList.add`, `LinkedList.del` — a node is added in front, or taken out.
* `LinkedList.forEach` — a loop through the nodes from one of them on.
* `LinkedList.Represents` — a store and two ends represent a list of nodes.

## Main results

* `LinkedList.Represents.add`, `LinkedList.Represents.del` — the two operations.
* `LinkedList.Represents.add_frame`, `LinkedList.Represents.del_frame` — the other lists of the
  store stay.
* `LinkedList.Represents.forEach_eq` — a loop from the front end goes through the list.
-/

namespace LinkedList

variable {κ : Type*}

/-- The neighbours of a node, towards the front and towards the back. -/
structure Node (κ : Type*) where
  prev : Option κ
  next : Option κ
  deriving DecidableEq, Repr

/-- The two ends of a list: nodes come in at `last`, behind which lie the older ones. -/
structure Ends (κ : Type*) where
  first : Option κ
  last : Option κ
  deriving DecidableEq, Repr

/-- The ends of the empty list. -/
def Ends.empty : Ends κ := ⟨none, none⟩

section Operations

variable [DecidableEq κ]

/-- A node, if there is one, gets another neighbour in front. -/
def setPrev (o p : Option κ) (nodes : κ → Node κ) : κ → Node κ :=
  match o with
  | some k => Function.update nodes k { nodes k with prev := p }
  | none => nodes

/-- A node, if there is one, gets another neighbour behind it. -/
def setNext (o n : Option κ) (nodes : κ → Node κ) : κ → Node κ :=
  match o with
  | some k => Function.update nodes k { nodes k with next := n }
  | none => nodes

/-- A node is added in front of a list. -/
def add (k : κ) (nodes : κ → Node κ) (e : Ends κ) : (κ → Node κ) × Ends κ :=
  (setPrev e.last (some k) (Function.update nodes k ⟨none, e.last⟩),
    ⟨match e.last with
      | some _ => e.first
      | none => some k, some k⟩)

/-- A node is taken out of a list: its neighbours become neighbours, or ends of the list. -/
def del (k : κ) (nodes : κ → Node κ) (e : Ends κ) : (κ → Node κ) × Ends κ :=
  let last := match (nodes k).prev with
    | some _ => e.last
    | none => (nodes k).next
  let nodes := setNext (nodes k).prev (nodes k).next nodes
  let first := match (nodes k).next with
    | some _ => e.first
    | none => (nodes k).prev
  (setPrev (nodes k).next (nodes k).prev nodes, ⟨first, last⟩)

end Operations

/-- A node whose neighbour in front does not change. -/
lemma setPrev_of_ne [DecidableEq κ] {o : Option κ} {k : κ} (h : o ≠ some k) (p : Option κ)
    (nodes : κ → Node κ) : setPrev o p nodes k = nodes k := by
  cases o with
  | none => rfl
  | some l => exact Function.update_of_ne (fun hkl => h (congrArg some hkl.symm)) ..

/-- A node whose neighbour behind it does not change. -/
lemma setNext_of_ne [DecidableEq κ] {o : Option κ} {k : κ} (h : o ≠ some k) (n : Option κ)
    (nodes : κ → Node κ) : setNext o n nodes k = nodes k := by
  cases o with
  | none => rfl
  | some l => exact Function.update_of_ne (fun hkl => h (congrArg some hkl.symm)) ..

/-- A loop through the nodes from one of them on, which does not touch the links. -/
def forEach {m : Type*} (nodes : κ → Node κ) (body : κ → m → Option m) :
    ℕ → Option κ → m → Option m
  | _, none, s => some s
  | 0, some _, _ => none
  | fuel + 1, some k, s => (body k s).bind (forEach nodes body fuel (nodes k).next)

/-! ### Segments -/

/-- These nodes are linked one behind the other, between `p` in front and `q` behind. -/
def Segment (nodes : κ → Node κ) : Option κ → List κ → Option κ → Prop
  | _, [], _ => True
  | p, k :: ks, q => nodes k = ⟨p, ks.head?.or q⟩ ∧ Segment nodes (some k) ks q

/-- A store and two ends represent a list of nodes, the newest of them first. -/
structure Represents (nodes : κ → Node κ) (e : Ends κ) (ks : List κ) : Prop where
  segment : Segment nodes none ks none
  last : e.last = ks.head?
  first : e.first = ks.getLast?
  nodup : ks.Nodup

namespace Segment

variable {nodes nodes' : κ → Node κ}

/-- A segment depends on its own nodes only. -/
lemma congr {p q : Option κ} {ks : List κ} (h : Segment nodes p ks q)
    (hnodes : ∀ k ∈ ks, nodes' k = nodes k) : Segment nodes' p ks q := by
  induction ks generalizing p with
  | nil => trivial
  | cons k ks ih =>
    refine ⟨?_, ih h.2 fun j hj => hnodes j (List.mem_cons_of_mem _ hj)⟩
    rw [hnodes k List.mem_cons_self]
    exact h.1

/-- Two segments are one if the ends between them are neighbours. -/
lemma append_iff {p q : Option κ} {ks js : List κ} :
    Segment nodes p (ks ++ js) q ↔
      Segment nodes p ks (js.head?.or q) ∧ Segment nodes (ks.getLast?.or p) js q := by
  induction ks generalizing p with
  | nil => simp [Segment]
  | cons k ks ih =>
    have hlast : ((k :: ks).getLast?).or p = ks.getLast?.or (some k) := by
      cases ks with
      | nil => rfl
      | cons j ks =>
        rw [List.getLast?_cons_cons]
        cases h : (j :: ks).getLast? with
        | none => simp at h
        | some l => rfl
    simp only [List.cons_append, Segment, ih, hlast, List.head?_append, Option.or_assoc, and_assoc]

/-- The neighbours of a node in the middle. -/
lemma node_eq {p q : Option κ} {ks js : List κ} {k : κ}
    (h : Segment nodes p (ks ++ k :: js) q) :
    nodes k = ⟨ks.getLast?.or p, js.head?.or q⟩ :=
  (append_iff.mp h).2.1

variable [DecidableEq κ]

/-- The first node gets another neighbour in front. -/
lemma setPrev {p q : Option κ} {ks : List κ} (h : Segment nodes p ks q) (hnd : ks.Nodup)
    (p' : Option κ) : Segment (LinkedList.setPrev ks.head? p' nodes) p' ks q := by
  cases ks with
  | nil => trivial
  | cons k ks =>
    obtain ⟨hk, -⟩ := List.nodup_cons.mp hnd
    refine ⟨?_, h.2.congr fun j hj => Function.update_of_ne (fun hjk : j = k => hk (hjk ▸ hj)) ..⟩
    simp only [List.head?_cons, LinkedList.setPrev, Function.update_self, h.1]

/-- The last node gets another neighbour behind it. -/
lemma setNext {p q : Option κ} {ks : List κ} (h : Segment nodes p ks q) (hnd : ks.Nodup)
    (q' : Option κ) : Segment (LinkedList.setNext ks.getLast? q' nodes) p ks q' := by
  induction ks generalizing p with
  | nil => trivial
  | cons k ks ih =>
    obtain ⟨hk, hnd⟩ := List.nodup_cons.mp hnd
    cases ks with
    | nil =>
      refine ⟨?_, trivial⟩
      simp only [List.getLast?_singleton, LinkedList.setNext, Function.update_self, h.1]
      rfl
    | cons j ks =>
      rw [List.getLast?_cons_cons]
      refine ⟨?_, ih h.2 hnd⟩
      obtain ⟨l, hl⟩ : ∃ l, (j :: ks).getLast? = some l :=
        Option.isSome_iff_exists.mp (by simp)
      have hkl : k ≠ l := fun hkl => hk (hkl ▸ List.mem_of_getLast? hl)
      rw [hl, LinkedList.setNext, Function.update_of_ne hkl]
      exact h.1

end Segment

/-- The empty list. -/
lemma represents_empty (nodes : κ → Node κ) : Represents nodes Ends.empty [] :=
  ⟨trivial, rfl, rfl, List.nodup_nil⟩

/-- A loop that may be long enough goes through a segment. -/
lemma Segment.forEach_eq {m : Type*} {nodes : κ → Node κ} {body : κ → m → Option m} {p : Option κ}
    {ks : List κ} (h : Segment nodes p ks none) {fuel : ℕ} (hfuel : ks.length ≤ fuel) (s : m) :
    forEach nodes body fuel ks.head? s = ks.foldlM (fun s k => body k s) s := by
  induction ks generalizing p fuel s with
  | nil => cases fuel <;> rfl
  | cons k ks ih =>
    rw [List.length_cons] at hfuel
    obtain ⟨fuel, rfl⟩ : ∃ n, fuel = n + 1 := ⟨fuel - 1, by omega⟩
    rw [List.head?_cons, forEach, h.1, Option.or_none, List.foldlM_cons]
    cases body k s with
    | none => rfl
    | some s => exact ih h.2 (by omega) s

namespace Represents

variable {nodes : κ → Node κ} {e : Ends κ} {ks : List κ}

/-- A list depends on its own nodes only. -/
lemma congr {nodes' : κ → Node κ} (h : Represents nodes e ks)
    (hnodes : ∀ k ∈ ks, nodes' k = nodes k) : Represents nodes' e ks :=
  { h with segment := h.segment.congr hnodes }

/-- A loop from the front end goes through the list. -/
theorem forEach_eq {m : Type*} {body : κ → m → Option m} (h : Represents nodes e ks) {fuel : ℕ}
    (hfuel : ks.length ≤ fuel) (s : m) :
    forEach nodes body fuel e.last s = ks.foldlM (fun s k => body k s) s := by
  rw [h.last]
  exact h.segment.forEach_eq hfuel s

/-- The oldest node. -/
lemma first_eq_of_append (h : Represents nodes e ks) {js : List κ} {k : κ} (hks : ks = js ++ [k]) :
    e.first = some k := by
  rw [h.first, hks, List.getLast?_concat]

variable [DecidableEq κ]

/-- What is added is in front of the list.

**Proof sketch.** The new node is linked to the front end, whose first node gets it as its
neighbour: this is `Segment.setPrev`. -/
theorem add (h : Represents nodes e ks) {k : κ} (hk : k ∉ ks) :
    Represents (add k nodes e).1 (add k nodes e).2 (k :: ks) := by
  have hframe : ∀ j ∈ ks, Function.update nodes k ⟨none, e.last⟩ j = nodes j := by
    intro j hj
    exact Function.update_of_ne (fun hjk : j = k => hk (hjk ▸ hj)) ..
  have hseg := (h.segment.congr hframe).setPrev h.nodup (some k)
  have hlast := h.last
  refine ⟨⟨?_, ?_⟩, rfl, ?_, List.nodup_cons.mpr ⟨hk, h.nodup⟩⟩
  · -- the new node is not the one whose neighbour changes
    have hkl : ks.head? ≠ some k := fun hkl => hk (List.mem_of_mem_head? hkl)
    simp only [LinkedList.add, hlast, setPrev_of_ne hkl, Function.update_self, Option.or_none]
  · simp only [LinkedList.add, hlast]
    rwa [hlast] at hseg
  · cases ks with
    | nil => simp only [LinkedList.add, hlast, List.head?_nil, List.getLast?_singleton]
    | cons l ks =>
      simp only [LinkedList.add, hlast, List.head?_cons, List.getLast?_cons_cons]
      exact h.first

/-- Another list stays when a node is added that is not in it. -/
theorem add_frame {e' : Ends κ} {js : List κ} (h : Represents nodes e ks)
    (h' : Represents nodes e' js) (hdisj : ks.Disjoint js) {k : κ} (hk : k ∉ js) :
    Represents (LinkedList.add k nodes e).1 e' js := by
  refine h'.congr fun j hj => ?_
  have hjk : j ≠ k := fun hjk => hk (hjk ▸ hj)
  have hjl : e.last ≠ some j := by
    rw [h.last]
    exact fun hjl => hdisj (List.mem_of_mem_head? hjl) hj
  simp only [LinkedList.add, setPrev_of_ne hjl, Function.update_of_ne hjk]

/-- The nodes after a node in the middle is taken out. -/
lemma del_nodes {as bs : List κ} {k : κ} (h : Represents nodes e (as ++ k :: bs)) :
    (LinkedList.del k nodes e).1 =
      LinkedList.setPrev bs.head? as.getLast? (LinkedList.setNext as.getLast? bs.head? nodes) := by
  have hnode : nodes k = ⟨as.getLast?, bs.head?⟩ := by
    rw [h.segment.node_eq, Option.or_none, Option.or_none]
  have hka : as.getLast? ≠ some k := fun hka =>
    (List.nodup_append'.mp h.nodup).2.2 (List.mem_of_getLast? hka) List.mem_cons_self
  simp only [LinkedList.del, hnode, setNext_of_ne hka]

/-- The ends after a node in the middle is taken out. -/
lemma del_ends {as bs : List κ} {k : κ} (h : Represents nodes e (as ++ k :: bs)) :
    (LinkedList.del k nodes e).2 = ⟨(as ++ bs).getLast?, (as ++ bs).head?⟩ := by
  have hnode : nodes k = ⟨as.getLast?, bs.head?⟩ := by
    rw [h.segment.node_eq, Option.or_none, Option.or_none]
  have hka : as.getLast? ≠ some k := fun hka =>
    (List.nodup_append'.mp h.nodup).2.2 (List.mem_of_getLast? hka) List.mem_cons_self
  simp only [LinkedList.del, hnode, setNext_of_ne hka]
  congr 1
  · cases bs with
    | nil => rw [List.append_nil]; rfl
    | cons b bs =>
      have hfirst := h.first
      rw [List.getLast?_append_cons, List.getLast?_cons_cons] at hfirst
      rw [List.getLast?_append_cons]
      exact hfirst
  · cases as with
    | nil => rfl
    | cons a as =>
      obtain ⟨l, hl⟩ : ∃ l, (a :: as).getLast? = some l :=
        Option.isSome_iff_exists.mp (by simp)
      rw [hl]
      exact h.last

/-- What is taken out of a list is in it no more, and the others keep their order.

**Proof sketch.** The nodes before it and those behind it are two segments; the last of the former
and the first of the latter become neighbours. -/
theorem del (h : Represents nodes e ks) {k : κ} (hk : k ∈ ks) :
    Represents (LinkedList.del k nodes e).1 (LinkedList.del k nodes e).2 (ks.erase k) := by
  obtain ⟨as, bs, rfl⟩ := List.append_of_mem hk
  have hnd := List.nodup_append'.mp h.nodup
  obtain ⟨hkb, hndb⟩ := List.nodup_cons.mp hnd.2.1
  have hka : k ∉ as := fun hka => hnd.2.2 hka List.mem_cons_self
  have hdisj : ∀ l ∈ as, l ∉ bs := fun l hl hb => hnd.2.2 hl (List.mem_cons_of_mem _ hb)
  rw [List.erase_append_right _ hka, List.erase_cons_head, h.del_nodes, h.del_ends]
  refine ⟨Segment.append_iff.mpr ⟨?_, ?_⟩, rfl, rfl, ?_⟩
  · -- the nodes before the one that is taken out
    have hseg := (Segment.append_iff.mp h.segment).1.setNext hnd.1 bs.head?
    rw [Option.or_none]
    refine hseg.congr fun l hl => setPrev_of_ne (fun hb => ?_) _ _
    exact hdisj l hl (List.mem_of_mem_head? hb)
  · -- the nodes behind it
    have hframe : ∀ l ∈ bs, LinkedList.setNext as.getLast? bs.head? nodes l = nodes l := by
      intro l hl
      refine setNext_of_ne (fun ha => ?_) _ _
      exact hdisj l (List.mem_of_getLast? ha) hl
    have hseg := ((Segment.append_iff.mp h.segment).2.2.congr hframe).setPrev hndb as.getLast?
    rwa [Option.or_none]
  · exact List.nodup_append'.mpr ⟨hnd.1, hndb, fun l ha hb => hdisj l ha hb⟩

/-- Another list stays when a node is taken out of a list. -/
theorem del_frame {e' : Ends κ} {js : List κ} (h : Represents nodes e ks)
    (h' : Represents nodes e' js) (hdisj : ks.Disjoint js) {k : κ} (hk : k ∈ ks) :
    Represents (LinkedList.del k nodes e).1 e' js := by
  obtain ⟨as, bs, rfl⟩ := List.append_of_mem hk
  refine h'.congr fun j hj => ?_
  have hj' : j ∉ as ++ k :: bs := fun hks => hdisj hks hj
  rw [h.del_nodes, setPrev_of_ne, setNext_of_ne]
  · exact fun ha => hj' (List.mem_append_left _ (List.mem_of_getLast? ha))
  · exact fun hb =>
      hj' (List.mem_append_right _ (List.mem_cons_of_mem _ (List.mem_of_mem_head? hb)))

end Represents

end LinkedList
