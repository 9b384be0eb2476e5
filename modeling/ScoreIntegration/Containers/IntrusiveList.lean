import Mathlib.Data.List.Nodup
import Mathlib.Logic.Function.Basic

/-!
# Intrusive lists

A ring of nodes with pointers in both directions, whose root is not an element.  A node
is in one list at most, and must not be linked when it is inserted.  `Holds links root
elements` gives the elements of a ring; inserting and removing change them as expected
and do not touch other rings.
-/

namespace ScoreIntegration.Containers

open List (cons_append mem_cons mem_cons_of_mem mem_cons_self)
open List (mem_append mem_cons mem_singleton nodup_cons)

/-- The pointers of all nodes; `none` is the null pointer. -/
structure Links (α : Type) where
  next : α → Option α
  prev : α → Option α

namespace Links

variable {α : Type} [DecidableEq α] {links : Links α} {node root : α} {nodes elems : List α}
  {s' : Links α} {first last pre : α}

/-! ## Operations -/

section

variable (links : Links α)

def isLinked (node : α) : Bool := (links.next node).isSome

def setNext (node : α) (target : Option α) : Links α :=
  { links with next := Function.update links.next node target }

def setPrev (node : α) (target : Option α) : Links α :=
  { links with prev := Function.update links.prev node target }

def makeEmptyRoot (node : α) : Links α := (links.setNext node (some node)).setPrev node (some node)

def unlink (node : α) : Links α := (links.setNext node none).setPrev node none

/-- Link a node before another one; `none` if a null pointer is dereferenced. -/
def insertNodeBefore (node target : α) : Option (Links α) :=
  let inserted := (links.setNext node (some target)).setPrev node (links.prev target)
  (inserted.prev target).map fun before =>
    (inserted.setNext before (some node)).setPrev target (some node)

/-- The node must not be linked. -/
def insertBefore (node target : α) : Option (Links α) :=
  if links.isLinked node then none else links.insertNodeBefore node target

def pushBack (root node : α) : Option (Links α) := links.insertBefore node root

def pushFront (root node : α) : Option (Links α) := (links.next root).bind (links.insertBefore node)

def isEmpty (root : α) : Bool := links.next root = some root

/-- The first element; the list must not be empty. -/
def front (root : α) : Option α := if links.isEmpty root then none else links.next root

def removeNode (node : α) : Option (Links α) :=
  match links.prev node, links.next node with
  | some before, some after =>
    some (((links.setNext before (some after)).setPrev after (some before)).unlink node)
  | _, _ => none

def popFront (root : α) : Option (Links α) := (links.front root).bind links.removeNode

end

def pushAll (links : Links α) (root : α) : List α → Option (Links α)
  | [] => some links
  | node :: nodes => (links.pushBack root node).bind fun pushed => pushed.pushAll root nodes

/-! ## Pointers after an assignment -/

section

variable (links : Links α) (node o : α) (target : Option α)

theorem next_setNext : (links.setNext node target).next o =
      if o = node then target else links.next o :=
  Function.update_apply _ _ _ _

theorem prev_setNext : (links.setNext node target).prev o = links.prev o := rfl

theorem next_setPrev : (links.setPrev node target).next o = links.next o := rfl

theorem prev_setPrev : (links.setPrev node target).prev o =
      if o = node then target else links.prev o :=
  Function.update_apply _ _ _ _

end

/-! ## Rings -/

omit [DecidableEq α] in
def Segment (links : Links α) (first : α) : List α → α → Prop
  | [], last => links.next first = some last ∧ links.prev last = some first
  | node :: nodes, last =>
    (links.next first = some node ∧ links.prev node = some first) ∧ links.Segment node nodes last

omit [DecidableEq α] in
structure Holds (links : Links α) (root : α) (elements : List α) : Prop where
  nodup : (root :: elements).Nodup
  ring : links.Segment root elements root

omit [DecidableEq α] in
theorem segment_append (links : Links α) (first mid last : α) (nodes rest : List α) :
    links.Segment first (nodes ++ mid :: rest) last ↔
      links.Segment first nodes mid ∧ links.Segment mid rest last := by
  induction nodes generalizing first with
  | nil => exact Iff.rfl
  | cons node nodes ih => simp only [cons_append, Segment, ih, and_assoc]

omit [DecidableEq α] in
theorem Segment.of_same (segment : links.Segment first nodes last)
    (sameNext : ∀ node ∈ first :: nodes, s'.next node = links.next node)
    (samePrev : ∀ node ∈ nodes ++ [last], s'.prev node = links.prev node) :
    s'.Segment first nodes last := by
  induction nodes generalizing first with
  | nil =>
    exact ⟨(sameNext first mem_cons_self).trans segment.1,
      (samePrev last mem_cons_self).trans segment.2⟩
  | cons node nodes ih =>
    refine ⟨⟨(sameNext first mem_cons_self).trans segment.1.1,
      (samePrev node mem_cons_self).trans segment.1.2⟩,
      ih segment.2 ?_ ?_⟩
    · exact fun o mem => sameNext o (mem_cons_of_mem first mem)
    · exact fun o mem => samePrev o (mem_cons_of_mem node mem)

omit [DecidableEq α] in
def SameOutside (nodes : List α) (links after : Links α) : Prop :=
  ∀ node ∉ nodes, after.next node = links.next node ∧ after.prev node = links.prev node

omit [DecidableEq α] in
theorem SameOutside.isLinked (same : SameOutside nodes links s') (isOutside : node ∉ nodes) :
    s'.isLinked node = links.isLinked node := by
  rw [Links.isLinked, Links.isLinked, (same node isOutside).1]

omit [DecidableEq α] in
theorem Holds.of_sameOutside (holds : links.Holds root elems)
    (same : SameOutside nodes links s') (disjoint : ∀ node ∈ root :: elems, node ∉ nodes) :
    s'.Holds root elems := by
  refine ⟨holds.nodup, holds.ring.of_same ?_ ?_⟩
  · exact fun node mem => (same node (disjoint node mem)).1
  · intro node mem
    refine (same node (disjoint node ?_)).2
    rcases mem_append.mp mem with isElement | isRoot
    · exact mem_cons_of_mem root isElement
    · rw [mem_singleton.mp isRoot]
      exact mem_cons_self

omit [DecidableEq α] in
theorem Segment.isLinked (segment : links.Segment first nodes last)
    (mem : node ∈ first :: nodes) : links.isLinked node = true := by
  induction nodes generalizing first with
  | nil =>
    rw [mem_singleton.mp mem, isLinked, segment.1]
    rfl
  | cons tl nodes ih =>
    rcases mem_cons.mp mem with rfl | isLater
    · rw [isLinked, segment.1.1]
      rfl
    · exact ih segment.2 isLater

omit [DecidableEq α] in
theorem Holds.not_mem (holds : links.Holds root elems)
    (notLinked : links.isLinked node = false) : node ∉ root :: elems := by
  intro mem
  rw [holds.ring.isLinked mem] at notLinked
  cases notLinked

omit [DecidableEq α] in
theorem Holds.of_pushed (holds : links.Holds root elems) (notLinked : links.isLinked node = false)
    (same : SameOutside (node :: nodes) links s') (disjoint : ∀ o ∈ root :: elems, o ∉ nodes) :
    s'.Holds root elems := by
  refine holds.of_sameOutside same fun o mem =>
    List.not_mem_cons_of_ne_of_not_mem ?_ (disjoint o mem)
  rintro rfl
  exact holds.not_mem notLinked mem

theorem insertBefore_spec {target} (notLinked : links.isLinked node = false)
    (isPrev : links.prev target = some pre) (notTarget : target ≠ node) :
    ∃ s', links.insertBefore node target = some s' ∧ (∀ o, s'.next o =
        if o = pre then some node
        else if o = node then some target else links.next o) ∧
      ∀ o, s'.prev o =
        if o = target then some node
        else if o = node then some pre else links.prev o := by
  have samePrev : ((links.setNext node (some target)).setPrev node
      (links.prev target)).prev target = some pre := by
    rw [prev_setPrev, if_neg notTarget]
    exact isPrev
  refine ⟨(((links.setNext node (some target)).setPrev node (links.prev target)).setNext
    pre (some node)).setPrev target (some node), ?_, fun o => ?_, fun o => ?_⟩
  · rw [insertBefore, if_neg (by rw [notLinked]; exact Bool.false_ne_true)]
    simp only [insertNodeBefore, samePrev, Option.map_some]
  · rw [next_setPrev, next_setNext, next_setPrev, next_setNext]
  · rw [prev_setPrev, prev_setNext, prev_setPrev, isPrev, prev_setNext]

omit [DecidableEq α] in
theorem Segment.head (segment : links.Segment first nodes last) :
    links.next first = some (nodes.headD last) ∧ links.prev (nodes.headD last) = some first := by
  cases nodes with
  | nil => exact segment
  | cons node nodes => exact segment.1

omit [DecidableEq α] in
theorem Segment.relink (segment : links.Segment first nodes last)
    (next : s'.next pre = some (nodes.headD last)) (prev : s'.prev (nodes.headD last) = some pre)
    (sameNext : ∀ node ∈ nodes, s'.next node = links.next node)
    (samePrev : ∀ node ∈ (nodes ++ [last]).tail, s'.prev node = links.prev node) :
    s'.Segment pre nodes last := by
  cases nodes with
  | nil => exact ⟨next, prev⟩
  | cons node nodes => exact ⟨⟨next, prev⟩, segment.2.of_same sameNext samePrev⟩

omit [DecidableEq α] in
theorem ne_headD (nodup : (root :: elems).Nodup) {o} (mem : o ∈ (elems ++ [root]).tail) :
    o ≠ elems.headD root := by
  cases elems with
  | nil => cases mem
  | cons first rest =>
    obtain ⟨rootIsNew, nodup⟩ := nodup_cons.mp nodup
    rcases mem_append.mp mem with isLater | isRoot
    · rintro rfl
      exact (nodup_cons.mp nodup).1 isLater
    · rw [mem_singleton.mp isRoot]
      exact fun same => rootIsNew (mem_cons.mpr (.inl same))

omit [DecidableEq α] in
theorem mem_ring_of_mem_tail {o} (mem : o ∈ (elems ++ [root]).tail) : o ∈ root :: elems := by
  simpa [or_comm] using List.mem_of_mem_tail mem

omit [DecidableEq α] in
theorem headD_mem : elems.headD root ∈ root :: elems := by
  cases elems <;> simp

def mirror (links : Links α) : Links α := ⟨links.prev, links.next⟩

omit [DecidableEq α] in
theorem Segment.mirror (segment : links.Segment first nodes last) :
    links.mirror.Segment last nodes.reverse first := by
  induction nodes generalizing first with
  | nil => exact segment.symm
  | cons node nodes ih =>
    rw [List.reverse_cons]
    exact (segment_append _ _ _ _ _ _).mpr ⟨ih segment.2, segment.1.symm⟩

section

variable (holds : links.Holds root elems)
include holds

omit [DecidableEq α] in
theorem Holds.mirror : links.mirror.Holds root elems.reverse := by
  refine ⟨?_, holds.ring.mirror⟩
  simpa using holds.nodup

theorem Holds.inserted (isNew : node ∉ root :: elems) (s' : Links α)
    (next : ∀ o, s'.next o = if o = root then some node
      else if o = node then some (elems.headD root) else links.next o)
    (prev : ∀ o, s'.prev o = if o = elems.headD root then some node
      else if o = node then some root else links.prev o) :
    s'.Holds root (node :: elems) ∧ SameOutside (node :: root :: elems) links s' := by
  have notNode {o} (mem : o ∈ root :: elems) : o ≠ node := fun same => isNew (same ▸ mem)
  have notRoot := notNode mem_cons_self
  refine ⟨⟨?_, ⟨?_, ?_⟩, holds.ring.relink ?_ ?_ (fun o mem => ?_) fun o mem => ?_⟩,
    fun o isOutside => ?_⟩
  · exact (List.Perm.swap _ _ _).nodup_iff.mp (nodup_cons.mpr ⟨isNew, holds.nodup⟩)
  · rw [next, if_pos rfl]
  · rw [prev, if_neg (notNode headD_mem).symm, if_pos rfl]
  · rw [next, if_neg notRoot.symm, if_pos rfl]
  · rw [prev, if_pos rfl]
  · have differ : o ≠ root := fun same => (nodup_cons.mp holds.nodup).1 (same ▸ mem)
    rw [next, if_neg differ, if_neg (notNode (mem_cons_of_mem root mem))]
  · rw [prev, if_neg (ne_headD holds.nodup mem), if_neg (notNode (mem_ring_of_mem_tail mem))]
  · have notHead : o ≠ elems.headD root :=
      fun same => isOutside (mem_cons_of_mem node (same ▸ headD_mem))
    simp only [mem_cons, not_or] at isOutside
    rw [next, prev, if_neg isOutside.2.1, if_neg isOutside.1, if_neg notHead, if_neg isOutside.1]
    exact ⟨rfl, rfl⟩

theorem Holds.pushBack (notLinked : links.isLinked node = false) :
    ∃ s', links.pushBack root node = some s' ∧ s'.Holds root (elems ++ [node]) ∧
      SameOutside (node :: root :: elems) links s' := by
  have isNew := holds.not_mem notLinked
  have notRoot : root ≠ node := fun same => isNew (same ▸ mem_cons_self)
  -- Seen from behind, the node comes first.
  have mirrored := holds.mirror
  obtain ⟨s', pushed, next, prev⟩ := insertBefore_spec notLinked mirrored.ring.head.1 notRoot
  obtain ⟨afterHolds, same⟩ := mirrored.inserted (by simpa using isNew) s'.mirror prev next
  refine ⟨s', pushed, ?_, fun o isOutside => (same o (by simpa using isOutside)).symm⟩
  rw [← List.reverse_reverse elems, ← List.reverse_cons]
  exact afterHolds.mirror

theorem isEmpty_iff : links.isEmpty root = true ↔ elems = [] := by
  rw [isEmpty, decide_eq_true_iff]
  cases elems with
  | nil => exact iff_of_true holds.ring.1 rfl
  | cons first rest =>
    refine iff_of_false (fun isEmpty => ?_) (List.cons_ne_nil _ _)
    have isRoot : first = root := Option.some.inj (holds.ring.1.1.symm.trans isEmpty)
    exact (nodup_cons.mp holds.nodup).1 (isRoot ▸ mem_cons_self)

theorem Holds.front : links.front root = elems.head? := by
  unfold Links.front
  cases elems with
  | nil => rw [if_pos ((isEmpty_iff holds).mpr rfl)]; rfl
  | cons first rest =>
    rw [if_neg fun isEmpty => List.cons_ne_nil _ _ ((isEmpty_iff holds).mp isEmpty)]
    exact holds.ring.1.1

theorem Holds.pushFront (notLinked : links.isLinked node = false) :
    ∃ s', links.pushFront root node = some s' ∧ s'.Holds root (node :: elems) ∧
      SameOutside (node :: root :: elems) links s' := by
  have isNew := holds.not_mem notLinked
  obtain ⟨isNext, isPrev⟩ := holds.ring.head
  obtain ⟨s', pushed, next, prev⟩ :=
    insertBefore_spec notLinked isPrev fun same => isNew (same ▸ headD_mem)
  refine ⟨s', ?_, holds.inserted isNew s' next prev⟩
  rw [Links.pushFront, isNext]
  exact pushed

end

theorem removeNode_spec {tl} (isPrev : links.prev node = some pre)
    (isNext : links.next node = some tl) :
    ∃ s', links.removeNode node = some s' ∧ (∀ o, s'.next o =
        if o = node then none
        else if o = pre then some tl else links.next o) ∧
      ∀ o, s'.prev o =
        if o = node then none
        else if o = tl then some pre else links.prev o := by
  refine ⟨((links.setNext pre (some tl)).setPrev tl
    (some pre)).unlink node, ?_, fun o => ?_, fun o => ?_⟩
  · rw [removeNode, isPrev, isNext]
  · rw [unlink, next_setPrev, next_setNext, next_setPrev, next_setNext]
  · rw [unlink, prev_setPrev, prev_setNext, prev_setPrev, prev_setNext]

theorem Holds.popFront {rest} (holds : links.Holds root (first :: rest)) :
    ∃ s', links.popFront root = some s' ∧ s'.Holds root rest ∧ s'.isLinked first = false ∧
      SameOutside (root :: first :: rest) links s' := by
  obtain ⟨rootIsNew, separate⟩ := nodup_cons.mp holds.nodup
  obtain ⟨firstIsNew, restNodup⟩ := nodup_cons.mp separate
  have nodup : (root :: rest).Nodup :=
    nodup_cons.mpr ⟨fun isLater => rootIsNew (mem_cons_of_mem _ isLater), restNodup⟩
  have notFirst {o} (mem : o ∈ root :: rest) : o ≠ first := by
    rintro rfl
    rcases mem_cons.mp mem with rfl | isLater
    · exact rootIsNew mem_cons_self
    · exact firstIsNew isLater
  have isFront : links.front root = some first := holds.front
  obtain ⟨⟨_, isPrev⟩, ring⟩ := holds.ring
  obtain ⟨s', removed, next, prev⟩ := removeNode_spec isPrev ring.head.1
  refine ⟨s', ?_, ⟨nodup, ring.relink ?_ ?_ (fun o mem => ?_) fun o mem => ?_⟩, ?_,
    fun o isOutside => ?_⟩
  · rw [Links.popFront, isFront]
    exact removed
  · rw [next, if_neg (notFirst mem_cons_self), if_pos rfl]
  · rw [prev, if_neg (notFirst headD_mem), if_pos rfl]
  · have notRoot : o ≠ root := fun same => (nodup_cons.mp nodup).1 (same ▸ mem)
    rw [next, if_neg (notFirst (mem_cons_of_mem root mem)), if_neg notRoot]
  · rw [prev, if_neg (notFirst (mem_ring_of_mem_tail mem)), if_neg (ne_headD nodup mem)]
  · rw [isLinked, next, if_pos rfl]
    rfl
  · obtain ⟨notFirst, isOutside⟩ := not_or.mp
      fun mem => isOutside ((List.Perm.swap _ _ _).mem_iff.mpr (mem_cons.mpr mem))
    have notRoot : o ≠ root := fun same => isOutside (same ▸ mem_cons_self)
    have notHead : o ≠ rest.headD root := fun same => isOutside (same ▸ headD_mem)
    rw [next, prev, if_neg notFirst, if_neg notRoot, if_neg notFirst, if_neg notHead]
    exact ⟨rfl, rfl⟩

theorem Holds.pushAll (holds : links.Holds root elems) (nodup : nodes.Nodup)
    (notLinked : ∀ node ∈ nodes, links.isLinked node = false) :
    ∃ s', links.pushAll root nodes = some s' ∧ s'.Holds root (elems ++ nodes) ∧
      SameOutside (root :: elems ++ nodes) links s' := by
  induction nodes generalizing links elems with
  | nil => exact ⟨links, rfl, by rwa [List.append_nil], fun _ _ => ⟨rfl, rfl⟩⟩
  | cons node nodes ih =>
    obtain ⟨isNew, nodup⟩ := nodup_cons.mp nodup
    obtain ⟨pushed, isPushed, pushedHolds, samePushed⟩ :=
      holds.pushBack (notLinked node mem_cons_self)
    have stillNotLinked : ∀ o ∈ nodes, pushed.isLinked o = false := by
      intro o mem
      have wasNotLinked := notLinked o (mem_cons_of_mem _ mem)
      have notNode : o ≠ node := fun same => isNew (same ▸ mem)
      have untouched : o ∉ node :: root :: elems := by
        simp only [mem_cons, not_or]
        have elsewhere := holds.not_mem wasNotLinked
        simp only [mem_cons, not_or] at elsewhere
        exact ⟨notNode, elsewhere⟩
      exact (samePushed.isLinked untouched).trans wasNotLinked
    obtain ⟨s', isAfter, afterHolds, sameAfter⟩ := ih pushedHolds nodup stillNotLinked
    refine ⟨s', ?_, ?_, fun o untouched => ?_⟩
    · rw [pushAll, isPushed]
      exact isAfter
    · rwa [List.append_assoc] at afterHolds
    · simp only [cons_append, mem_cons, mem_append, not_or] at untouched
      obtain ⟨nextAfter, prevAfter⟩ := sameAfter o (by simp [untouched])
      obtain ⟨nextPushed, prevPushed⟩ := samePushed o (by simp [untouched])
      exact ⟨nextAfter.trans nextPushed, prevAfter.trans prevPushed⟩

end Links

end ScoreIntegration.Containers
