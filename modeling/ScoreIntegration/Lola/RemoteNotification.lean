import Mathlib.Data.Finset.Sort

/-!
# Remote event notification

`NotifyEventRemote` copies the identifiers of the registered nodes in blocks into a small
buffer, under a lock that it releases to send, so the registrations may change between two
blocks.  Node identifiers are the non-negative values of `pid_t`.
-/

namespace ScoreIntegration.Lola.RemoteNotification

abbrev NodeId := Fin (2 ^ 31)

/-- The capacity of `NodeIdTmpBufferType`. -/
def bufferSize : Nat := 20

/-- The loop of `CopyNodeIdentifiers` over the nodes from the iterator to the end of the set. -/
def copyLoop : List NodeId → (copied : Nat) → List NodeId × Bool
  | [], _ => ([], false)
  | node :: rest, copied =>
    if copied + 1 = bufferSize then ([node], decide (rest ≠ []))
    else
      let (ids, furtherIdsAvail) := copyLoop rest (copied + 1)
      (node :: ids, furtherIdsAvail)

section Copying

variable {κ : Type*}

/-- The registered nodes from `lower_bound(start)` on, in the order of the set. -/
def nodesFrom (nodes : Finset NodeId) (start : NodeId) : List NodeId :=
  (nodes.filter (start ≤ ·)).sort

/-- An event that is not in the map has the empty set here. -/
def copyNodeIdentifiers (eventId : κ) (srcMap : κ → Finset NodeId) (start : NodeId) :
    List NodeId × Bool :=
  copyLoop (nodesFrom (srcMap eventId) start) 0

variable (registered : Nat → κ → Finset NodeId) (eventId : κ)

/-- The loop of `NotifyEventRemote`, as the nodes it sends to. The first argument is
`255 - loop_count`, and `registered` is the map of registrations at each call of
`CopyNodeIdentifiers`. -/
def notifyLoop : Nat → (loopCount : Nat) → (start : NodeId) → List NodeId
  | 0, _, _ => []
  | remaining + 1, loopCount, start =>
    let (ids, furtherIdsAvail) := copyNodeIdentifiers eventId (registered loopCount) start
    if furtherIdsAvail then
      -- The buffer is full here, so its last element is the last copied one.
      match ids.getLast? with
      | none => ids
      | some lastNodeId =>
        if inRange : lastNodeId.val + 1 < 2 ^ 31 then
          ids ++ notifyLoop remaining (loopCount + 1) ⟨lastNodeId.val + 1, inRange⟩
        else ids
    else ids

def notifyEventRemote : List NodeId :=
  notifyLoop registered eventId 255 0 0

theorem copyLoop_eq {copied : Nat} (nodes : List NodeId) (room : copied < bufferSize) :
    copyLoop nodes copied =
      (nodes.take (bufferSize - copied), decide (bufferSize - copied < nodes.length)) := by
  induction nodes generalizing copied with
  | nil => simp [copyLoop]
  | cons node rest ih =>
    unfold copyLoop
    split
    case isTrue full =>
      have one : bufferSize - copied = 1 := by omega
      simp [one, List.length_pos_iff]
    case isFalse notFull =>
      have more : bufferSize - copied = bufferSize - (copied + 1) + 1 := by omega
      rw [ih (by omega), more]
      simp

theorem mem_nodesFrom {nodes : Finset NodeId} {start node : NodeId} :
    node ∈ nodesFrom nodes start ↔ node ∈ nodes ∧ start ≤ node := by
  simp [nodesFrom]

theorem nodesFrom_pairwise (nodes : Finset NodeId) (start : NodeId) :
    (nodesFrom nodes start).Pairwise (· < ·) :=
  (Finset.sortedLT_sort _).pairwise

/-- What one round does: it sends to all registered nodes from `start` on, or to the first twenty of
them and goes on at an identifier that separates these from the others. -/
theorem notifyLoop_succ (remaining loopCount : Nat) (start : NodeId) :
    notifyLoop registered eventId (remaining + 1) loopCount start =
        nodesFrom (registered loopCount eventId) start ∨
      ∃ (block later : List NodeId) (next : NodeId),
        nodesFrom (registered loopCount eventId) start = block ++ later ∧ block.length = 20 ∧
        (∀ node ∈ block, node < next) ∧ (∀ node ∈ later, next ≤ node) ∧
        notifyLoop registered eventId (remaining + 1) loopCount start =
          block ++ notifyLoop registered eventId remaining (loopCount + 1) next := by
  have sorted := nodesFrom_pairwise (registered loopCount eventId) start
  have copied : copyNodeIdentifiers eventId (registered loopCount) start = _ :=
    copyLoop_eq _ (by decide)
  simp only [notifyLoop, copied]
  generalize nodesFrom (registered loopCount eventId) start = nodes at sorted
  rcases Nat.lt_or_ge 20 nodes.length with more | all
  · right
    have full : (nodes.take 20).length = 20 := List.length_take_of_le more.le
    obtain ⟨others, last, ends⟩ := (nodes.take 20).eq_nil_or_concat'.resolve_left
      (List.ne_nil_of_length_pos (by omega))
    have whole : nodes.take 20 ++ nodes.drop 20 = nodes := List.take_append_drop 20 nodes
    rw [← whole, List.pairwise_append, ends] at sorted
    obtain ⟨sortedBlock, -, before⟩ := sorted
    have lastBefore := before last (by simp)
    have isLast : ∀ node ∈ others ++ [last], node ≤ last := by
      intro node member
      rcases List.mem_append.mp member with other | isLast
      · exact ((List.pairwise_append.mp sortedBlock).2.2 node other last (by simp)).le
      · exact (List.mem_singleton.mp isLast).le
    -- One more node exists, so the last copied one is not the greatest identifier.
    obtain ⟨first, isFirst⟩ := List.exists_mem_of_length_pos
      (show 0 < (nodes.drop 20).length by rw [List.length_drop]; omega)
    have inRange : last.val + 1 < 2 ^ 31 :=
      Nat.lt_of_le_of_lt (Fin.lt_def.mp (lastBefore first isFirst)) first.isLt
    refine ⟨nodes.take 20, nodes.drop 20, ⟨last.val + 1, inRange⟩, whole.symm, full, ?_,
      fun node member => Fin.lt_def.mp (lastBefore node member), ?_⟩
    · intro node member
      exact Nat.lt_succ_of_le (isLast node (ends ▸ member))
    · simp only [bufferSize, Nat.sub_zero, more, decide_true, if_true, ends,
        List.getLast?_concat, dif_pos inRange]
  · left
    have whole : nodes.take 20 = nodes := List.take_of_length_le all
    simp [bufferSize, whole, Nat.not_lt_of_ge all]

/-- The identifiers of a run ascend, so no node gets a second notification. -/
theorem notifyLoop_ascends (remaining loopCount : Nat) (start : NodeId) :
    (notifyLoop registered eventId remaining loopCount start).Pairwise (· < ·) ∧
      ∀ node ∈ notifyLoop registered eventId remaining loopCount start, start ≤ node := by
  induction remaining generalizing loopCount start with
  | zero => simp [notifyLoop]
  | succ remaining ih =>
    have sorted := nodesFrom_pairwise (registered loopCount eventId) start
    have fromStart : ∀ node ∈ nodesFrom (registered loopCount eventId) start, start ≤ node :=
      fun node member => (mem_nodesFrom.mp member).2
    rcases notifyLoop_succ registered eventId remaining loopCount start with
      whole | ⟨block, later, next, nodes, full, before, after, round⟩
    · rw [whole]
      exact ⟨sorted, fromStart⟩
    · obtain ⟨restAscends, fromNext⟩ := ih (loopCount + 1) next
      rw [nodes] at sorted fromStart
      rw [round]
      constructor
      · refine List.pairwise_append.mpr ⟨(List.pairwise_append.mp sorted).1, restAscends, ?_⟩
        intro node member other otherMember
        exact (before node member).trans_le (fromNext other otherMember)
      · intro node member
        rcases List.mem_append.mp member with inBlock | inRest
        · exact fromStart node (List.mem_append_left _ inBlock)
        · obtain ⟨first, isFirst⟩ := List.exists_mem_of_length_pos
            (show 0 < block.length by omega)
          have startNext : start < next :=
            (fromStart first (List.mem_append_left _ isFirst)).trans_lt (before first isFirst)
          exact startNext.le.trans (fromNext node inRest)

theorem registered_of_mem_notifyLoop {remaining loopCount : Nat} {start node : NodeId}
    (notified : node ∈ notifyLoop registered eventId remaining loopCount start) :
    ∃ call, node ∈ registered call eventId := by
  induction remaining generalizing loopCount start with
  | zero => simp [notifyLoop] at notified
  | succ remaining ih =>
    rcases notifyLoop_succ registered eventId remaining loopCount start with
      whole | ⟨block, later, next, nodes, -, -, -, round⟩
    · rw [whole] at notified
      exact ⟨loopCount, (mem_nodesFrom.mp notified).1⟩
    · rw [round] at notified
      rcases List.mem_append.mp notified with inBlock | inRest
      · have listed := List.mem_append_left later inBlock
        rw [← nodes] at listed
        exact ⟨loopCount, (mem_nodesFrom.mp listed).1⟩
      · exact ih inRest

/-- A node that stays registered is missed only by a run that has used up all its rounds. -/
theorem length_of_not_mem_notifyLoop {remaining loopCount : Nat} {start node : NodeId}
    (stays : ∀ call, node ∈ registered call eventId) (fromStart : start ≤ node)
    (missed : node ∉ notifyLoop registered eventId remaining loopCount start) :
    20 * remaining ≤ (notifyLoop registered eventId remaining loopCount start).length := by
  induction remaining generalizing loopCount start with
  | zero => simp
  | succ remaining ih =>
    have listed := mem_nodesFrom.mpr ⟨stays loopCount, fromStart⟩
    rcases notifyLoop_succ registered eventId remaining loopCount start with
      whole | ⟨block, later, next, nodes, full, -, after, round⟩
    · exact absurd (whole ▸ listed) missed
    · rw [round, List.mem_append, not_or] at missed
      rw [nodes] at listed
      have isLater := (List.mem_append.mp listed).resolve_left missed.1
      have restFull := ih (after node isLater) missed.2
      rw [round, List.length_append, full]
      omega

/-- However the registrations change while it runs, the notification reaches every node that
stays registered, once, and no others, if at most 5100 nodes are ever registered. -/
theorem notifyEventRemote_once {nodes : Finset NodeId} (few : nodes.card ≤ 5100)
    (within : ∀ call, registered call eventId ⊆ nodes) :
    (∀ node, (∀ call, node ∈ registered call eventId) →
      (notifyEventRemote registered eventId).count node = 1) ∧
    (∀ node, (notifyEventRemote registered eventId).count node ≤ 1) ∧
    ∀ node ∈ notifyEventRemote registered eventId, ∃ call, node ∈ registered call eventId := by
  have distinct : (notifyEventRemote registered eventId).Nodup :=
    (notifyLoop_ascends registered eventId 255 0 0).1.imp fun less => less.ne
  refine ⟨?_, List.nodup_iff_count_le_one.mp distinct,
    fun node notified => registered_of_mem_notifyLoop registered eventId notified⟩
  intro node stays
  refine List.count_eq_one_of_mem distinct ?_
  by_contra missed
  -- The missed node and the 5100 nodes of 255 full blocks are too many.
  have full := length_of_not_mem_notifyLoop registered eventId stays (Fin.zero_le node) missed
  have subset : insert node (notifyEventRemote registered eventId).toFinset ⊆ nodes := by
    intro other member
    rcases Finset.mem_insert.mp member with rfl | notified
    · exact within 0 (stays 0)
    · obtain ⟨call, listed⟩ :=
        registered_of_mem_notifyLoop registered eventId (List.mem_toFinset.mp notified)
      exact within call listed
  have size := Finset.card_le_card subset
  rw [Finset.card_insert_of_notMem (by simpa using missed),
    List.toFinset_card_of_nodup distinct] at size
  have length : 20 * 255 ≤ (notifyEventRemote registered eventId).length := full
  omega

/-- A node of the second block, while others leave. -/
theorem staying_node_notified : (notifyEventRemote (fun call (_ : Unit) =>
    (Finset.range (if call = 0 then 30 else 26)).image (Fin.ofNat _)) ()).count 25 = 1 :=
  (notifyEventRemote_once _ _
    (show ((Finset.range 30).image (Fin.ofNat (2 ^ 31))).card ≤ 5100 by decide)
    (by intro call; split <;> decide)).1 25 (by intro call; split <;> decide)

end Copying

end ScoreIntegration.Lola.RemoteNotification
