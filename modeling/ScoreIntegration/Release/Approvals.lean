import Mathlib.Data.List.Induction
import Mathlib.Data.List.Nodup

/-!
# Approvals of a release

`check_pr_reviews` asks for an approval of each module by one of its maintainers.  The latest
review of a user decides, whatever its state.
-/

namespace ScoreIntegration.Release

open List Option

inductive ReviewState where
  | approved | changesRequested | commented | dismissed
  deriving DecidableEq

structure Review where
  userId : Int
  state : ReviewState
  submittedAt : Nat

/-- A maintainer is a dictionary or a plain identifier. -/
inductive Maintainer where
  | entry (github : String) (githubUserId : Int)
  | plain (id : Int)

namespace Maintainer

def id : Maintainer → Int
  | .entry _ githubUserId => githubUserId
  | .plain id => id

def username : Maintainer → String
  | .entry github _ => github
  | .plain id => toString id

end Maintainer

inductive ModuleStatus where
  | approved | disapproved | pending
  deriving DecidableEq

structure ModuleResult where
  maintainers : List Maintainer
  approvedMaintainers : List Int
  approvedUsernames : List String
  disapprovedMaintainers : List Int
  disapprovedUsernames : List String
  hasApproval : Bool
  hasDisapproval : Bool
  status : ModuleStatus

structure ApprovalResult where
  moduleResults : List (String × ModuleResult)
  approvedModules : List String
  notApprovedModules : List String
  disapprovedModules : List String
  allApproved : Bool

/-! ## The latest reviews -/

abbrev LatestReviews := Int → Option Review

def LatestReviews.add (latest : LatestReviews) (review : Review) : LatestReviews :=
  fun user =>
    if review.userId = user ∧ (latest user).all (·.submittedAt < review.submittedAt) then
      some review
    else latest user

def latestReviewsByUser (reviews : List Review) : LatestReviews :=
  reviews.foldl LatestReviews.add fun _ => none

/-! ## The modules -/

namespace LatestReviews

variable (latest : LatestReviews)

/-- The maintainers whose latest review has a state. -/
def inState (state : ReviewState) (maintainers : List Maintainer) : List Maintainer :=
  maintainers.filter fun maintainer => (latest maintainer.id).any (·.state = state)

def moduleResult (maintainers : List Maintainer) : ModuleResult :=
  let approved := latest.inState .approved maintainers
  let disapproved := latest.inState .changesRequested maintainers
  { maintainers
    approvedMaintainers := approved.map Maintainer.id
    approvedUsernames := approved.map Maintainer.username
    disapprovedMaintainers := disapproved.map Maintainer.id
    disapprovedUsernames := disapproved.map Maintainer.username
    hasApproval := !approved.isEmpty
    hasDisapproval := !disapproved.isEmpty
    status := if !disapproved.isEmpty then .disapproved
      else if !approved.isEmpty then .approved else .pending }

end LatestReviews

def modulesWith (results : List (String × ModuleResult)) (p : ModuleResult → Bool) : List String :=
  (results.filter fun result => p result.2).map Prod.fst

def checkPrReviews (reviews : List Review) (modulesMaintainers : List (String × List Maintainer)) :
    ApprovalResult :=
  let latest := latestReviewsByUser reviews
  let results := modulesMaintainers.map fun m => (m.1, latest.moduleResult m.2)
  let notApproved := modulesWith results fun result => result.hasDisapproval || !result.hasApproval
  { moduleResults := results
    approvedModules := modulesWith results fun result =>
      !result.hasDisapproval && result.hasApproval
    notApprovedModules := notApproved
    disapprovedModules := modulesWith results ModuleResult.hasDisapproval
    allApproved := notApproved.length == 0 }

/-! ## What the latest review decides -/

/-- The review is the user's last one. -/
def Review.IsLatest (review : Review) (reviews : List Review) (user : Int) : Prop :=
  review ∈ reviews ∧ review.userId = user ∧
    ∀ other ∈ reviews, other.userId = user → other.submittedAt ≤ review.submittedAt

variable {reviews : List Review} {user : Int} {review : Review}

theorem Review.IsLatest.append {last : Review} (isLatest : review.IsLatest reviews user)
    (notLater : last.userId = user → last.submittedAt ≤ review.submittedAt) :
    review.IsLatest (reviews ++ [last]) user := by
  obtain ⟨isReview, isUser, isLast⟩ := isLatest
  refine ⟨mem_append_left _ isReview, isUser, fun other isOther sameUser => ?_⟩
  rcases mem_append.mp isOther with isEarlier | isAppended
  · exact isLast other isEarlier sameUser
  · cases mem_singleton.mp isAppended
    exact notLater sameUser

theorem Review.isLatest_appended {last : Review} (earlier : ∀ other ∈ reviews,
    other.userId = last.userId → other.submittedAt ≤ last.submittedAt) :
    last.IsLatest (reviews ++ [last]) last.userId := by
  refine ⟨mem_append_right _ (mem_singleton_self _), rfl, fun other isOther sameUser => ?_⟩
  rcases mem_append.mp isOther with isEarlier | isAppended
  · exact earlier other isEarlier sameUser
  · cases mem_singleton.mp isAppended
    exact Nat.le_refl _

theorem latestReviewsByUser_spec (reviews : List Review) (user : Int) :
    (latestReviewsByUser reviews user).elim (∀ review ∈ reviews, review.userId ≠ user)
      fun review => review.IsLatest reviews user := by
  induction reviews using reverseRecOn with
  | nil => exact nofun
  | append_singleton reviews last ih =>
    have isAfter : latestReviewsByUser (reviews ++ [last]) =
        (latestReviewsByUser reviews).add last := foldl_append ..
    rw [isAfter, LatestReviews.add]
    generalize latestReviewsByUser reviews user = known at ih
    split
    case isTrue newer =>
      obtain ⟨rfl, isLater⟩ := newer
      refine Review.isLatest_appended fun other isOther sameUser => ?_
      cases known with
      | none => exact absurd sameUser (ih other isOther)
      | some before =>
        exact Nat.le_of_lt (Nat.lt_of_le_of_lt (ih.2.2 other isOther sameUser)
          (of_decide_eq_true isLater))
    case isFalse older =>
      cases known with
      | none =>
        have isOther : last.userId ≠ user := fun isUser => older ⟨isUser, rfl⟩
        simpa [or_imp, forall_and, isOther] using ih
      | some before =>
        exact ih.append fun isUser => Nat.not_lt.mp fun isLater =>
          older ⟨isUser, decide_eq_true isLater⟩

/-- With distinct times of submission the dictionary holds the latest review of each user. -/
theorem mem_latestReviewsByUser_iff (distinct : (reviews.map Review.submittedAt).Nodup) :
    latestReviewsByUser reviews user = some review ↔ review.IsLatest reviews user := by
  have spec := latestReviewsByUser_spec reviews user
  constructor
  · intro known
    rwa [known] at spec
  · rintro ⟨isReview, isUser, isLast⟩
    cases known : latestReviewsByUser reviews user with
    | none =>
      rw [known] at spec
      exact absurd isUser (spec review isReview)
    | some found =>
      rw [known] at spec
      obtain ⟨isFound, foundUser, foundLast⟩ := spec
      have sameTime := Nat.le_antisymm (isLast found isFound foundUser)
        (foundLast review isReview isUser)
      rw [inj_on_of_nodup_map distinct isFound isReview sameTime]

/-- A release is approved by the latest reviews of the maintainers. -/
def ApprovedByLatest (reviews : List Review)
    (modulesMaintainers : List (String × List Maintainer)) : Prop :=
  (∀ m ∈ modulesMaintainers, ∃ maintainer ∈ m.2, ∃ review : Review,
      review.IsLatest reviews maintainer.id ∧ review.state = .approved) ∧
    ∀ m ∈ modulesMaintainers, ∀ maintainer ∈ m.2, ∀ review : Review,
      review.IsLatest reviews maintainer.id → review.state ≠ .changesRequested

theorem isEmpty_inState_iff (distinct : (reviews.map Review.submittedAt).Nodup)
    (state : ReviewState) (maintainers : List Maintainer) :
    ((latestReviewsByUser reviews).inState state maintainers).isEmpty = true ↔
      ∀ maintainer ∈ maintainers, ∀ review : Review, review.IsLatest reviews maintainer.id →
        review.state ≠ state := by
  simp only [LatestReviews.inState, List.isEmpty_iff, filter_eq_nil_iff, Option.any_eq_true,
    mem_latestReviewsByUser_iff distinct, decide_eq_true_eq, not_exists, not_and, ne_eq]

/-- All modules are reported as approved exactly if each has a maintainer whose latest review is
an approval and no maintainer's latest review is a change request. -/
theorem checkPrReviews_allApproved_iff (reviews : List Review)
    (modulesMaintainers : List (String × List Maintainer))
    (distinctTimes : (reviews.map Review.submittedAt).Nodup) :
    (checkPrReviews reviews modulesMaintainers).allApproved = true ↔
      ApprovedByLatest reviews modulesMaintainers := by
  have approves (maintainers : List Maintainer) :
      (¬ ((latestReviewsByUser reviews).inState .approved maintainers).isEmpty = true) ↔
        ∃ maintainer ∈ maintainers, ∃ review : Review,
          review.IsLatest reviews maintainer.id ∧ review.state = .approved := by
    rw [isEmpty_inState_iff distinctTimes]
    push Not
    rfl
  simp only [ApprovedByLatest, ← approves, ← isEmpty_inState_iff distinctTimes, ← forall₂_and]
  simp only [checkPrReviews, modulesWith, LatestReviews.moduleResult, length_map, beq_iff_eq,
    length_eq_zero_iff, filter_eq_nil_iff, List.forall_mem_map]
  simp [and_comm]

theorem latest_approval_accepted :
    (checkPrReviews [⟨1, .approved, 2⟩, ⟨1, .commented, 1⟩]
      [("score_logging", [.plain 1])]).allApproved = true := by
  refine (checkPrReviews_allApproved_iff _ _ (by decide)).mpr ⟨?_, ?_⟩
  · exact forall_mem_singleton.mpr ⟨_, .head _, _, ⟨.head _, rfl, by decide⟩, rfl⟩
  · refine forall_mem_singleton.mpr (forall_mem_singleton.mpr fun review isLatest => ?_)
    cases (mem_latestReviewsByUser_iff (by decide)).mpr isLatest
    exact ReviewState.noConfusion

/-- The user has not followed a change request by an approval.  A dismissed request is not one:
its state is `dismissed`. -/
def Objects (reviews : List Review) (user : Int) : Prop :=
  ∃ request ∈ reviews, (request.userId = user ∧ request.state = .changesRequested) ∧
    ∀ later ∈ reviews, later.userId = user → request.submittedAt < later.submittedAt →
      later.state ≠ .approved

/-- A comment hides the change request of the same user. -/
theorem comment_hides_change_request :
    (checkPrReviews [⟨1, .changesRequested, 1⟩, ⟨1, .commented, 2⟩, ⟨2, .approved, 3⟩]
        [("score_logging", [.plain 1, .plain 2])]).allApproved = true ∧
      Objects [⟨1, .changesRequested, 1⟩, ⟨1, .commented, 2⟩, ⟨2, .approved, 3⟩] 1 :=
  ⟨by decide, _, .head _, by decide⟩

end ScoreIntegration.Release
