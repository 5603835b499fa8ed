-- SUMMARY: The leader retry loops of the client and how many calls they make between two waits.
import Mathlib.Data.List.Perm.Subperm
import Mathlib.Order.Nat
import Mathlib.Tactic.Common

/-!
# Leader retries

A peer that is not the leader may name one, and the loops follow the hint with a new
round at once. So a burst of calls ends when no hint is followed twice: each hint costs
at most one round. Two peers that name each other keep a loop busy without a wait.
-/

namespace ArbiterCore.LeaderRetry

/-- The ids of the peers, in the order of the configuration. -/
structure Client where
  order : List String
  nodup : order.Nodup
  named : "" ∉ order

inductive Code where
  | failedPrecondition | unavailable | deadlineExceeded | canceled | unknown | other
  deriving DecidableEq

/-- A failed call: its status, and the leader that the details name. An error without a
    status, such as io.EOF, has the code unknown. -/
structure CallError where
  code : Code
  leaderAddr : Option String

def notLeaderHint (e : CallError) : Option String :=
  if e.code = .failedPrecondition then some (e.leaderAddr.getD "") else none

def retryableStatus : Code → Bool
  | .unavailable | .deadlineExceeded | .canceled | .unknown => true
  | _ => false

/-- The variables of a loop. -/
structure Loop where
  /-- The leader that the client remembers. -/
  lastLeader : String
  preferred : String
  /-- The candidates that are left in this round. -/
  queue : List String
  /-- The peer whose stream is open. -/
  stream : Option String
  delivered : Bool
  returned : Bool
  /-- The hints that were followed since the last wait or message. The code does not
      keep them. -/
  followed : List String

inductive Answer where
  /-- A call returns without an error. -/
  | ok
  /-- A call fails. -/
  | fail (e : CallError)
  | noConn
  /-- Recv returns a message. -/
  | message
  /-- A wait is over. -/
  | timer
  /-- A round in which messages were delivered ends without a wait. -/
  | again
  /-- Another call of the client records a leader. -/
  | leader (id : String)
  | contextDone

namespace Client

variable (c : Client)

def setLeader (s : Loop) (id : String) : Loop :=
  { s with lastLeader := if id ∈ c.order then id else s.lastLeader }

def candidateOrder (lastLeader preferred : String) : List String :=
  let preferred := if preferred = "" then lastLeader else preferred
  (if preferred ≠ "" ∧ preferred ∈ c.order then [preferred] else []) ++ c.order.filter (· ≠ preferred)

/-- Starts a round. -/
def round (s : Loop) : Loop :=
  { s with queue := c.candidateOrder s.lastLeader s.preferred, delivered := false }

/-- The hint in the error of a peer, if the loops follow it. -/
def hint (id : String) (e : CallError) : Option String :=
  (notLeaderHint e).filter fun h => h ≠ "" ∧ h ≠ id ∧ h ∈ c.order

/-- What follows when a call of the peer `id` fails. -/
def failed (s : Loop) (id : String) (e : CallError) : Loop :=
  match c.hint id e with
  | some h => c.round { s with preferred := h, followed := h :: s.followed }
  | none =>
    if (notLeaderHint e).isSome ∨ retryableStatus e.code then s else { s with returned := true }

/-- The step of a loop at an answer, if it can get it. A loop that subscribes goes on with
    the stream that a call has opened. -/
def step (subscribes : Bool) (s : Loop) (a : Answer) : Option Loop :=
  if s.returned then none
  else match s.stream, s.queue, a with
    | _, _, .contextDone => some { s with returned := true }
    | _, _, .leader id => some (c.setLeader s id)
    | some _, _, .message => some { s with delivered := true, followed := [] }
    | some id, _, .fail e => some (c.failed { s with stream := none } id e)
    | none, _ :: rest, .noConn => some { s with queue := rest }
    | none, id :: rest, .fail e => some (c.failed { s with queue := rest } id e)
    | none, id :: rest, .ok =>
      let s := c.setLeader { s with queue := rest } id
      some (if subscribes then { s with stream := some id } else { s with returned := true })
    | none, [], .timer => if s.delivered then none else some (c.round { s with followed := [] })
    | none, [], .again => if s.delivered then some (c.round s) else none
    | _, _, _ => none

def withLeaderRetry : Loop → Answer → Option Loop := c.step false

def runSubscription : Loop → Answer → Option Loop := c.step true

def start (lastLeader : String) : Loop := c.round ⟨lastLeader, "", [], none, false, false, []⟩

/-- A loop gets the answers in their order. -/
def run (loop : Loop → Answer → Option Loop) (s : Loop) (as : List Answer) : Option Loop := as.foldlM loop s

/-- A hint that the loop follows at this answer was not followed since the last wait or
    message. -/
def fresh (s : Loop) : Answer → Bool
  | .fail e => ((s.stream <|> s.queue.head?).bind (c.hint · e)).all (· ∉ s.followed)
  | _ => true

/-- A loop gets the answers and follows no hint again. -/
def steady (loop : Loop → Answer → Option Loop) : Loop → List Answer → Bool
  | _, [] => true
  | s, a :: as => c.fresh s a && (loop s a).any fun s => steady loop s as

end Client

/-- Whether the answer is that of a call. -/
def Answer.isCall : Answer → Bool
  | .ok | .fail _ | .message => true
  | _ => false

/-- Whether a burst of calls ends with the answer. -/
def Answer.endsBurst : Answer → Bool
  | .timer | .message => true
  | _ => false

/-- Calls that a burst of `n` peers can have. -/
def burstBound (n : Nat) : Nat := 2 * n * n + 4 * n + 1

namespace Client

variable {c : Client} {s s' : Loop} {subscribes : Bool}

theorem length_candidateOrder (c : Client) (lastLeader preferred : String) :
    (c.candidateOrder lastLeader preferred).length ≤ c.order.length := by
  unfold candidateOrder
  dsimp only
  generalize (if preferred = "" then lastLeader else preferred) = p
  split
  · next hp =>
    have hlt : (c.order.filter (· ≠ p)).length < c.order.length :=
      List.length_filter_lt_length_iff_exists.mpr ⟨p, hp.2, by simp⟩
    rw [List.length_append, List.length_singleton, Nat.add_comm]
    exact hlt
  · simpa using List.length_filter_le _ c.order

/-- The followed hints are different peers. -/
structure Inv (c : Client) (s : Loop) : Prop where
  queue : s.queue.length ≤ c.order.length
  nodup : s.followed.Nodup
  known : s.followed ⊆ c.order

/-- What is left of a burst: two calls for each candidate, and a round for each hint that
    was not followed. -/
def potential (c : Client) (s : Loop) : Nat :=
  2 * c.order.length * (c.order.length - s.followed.length) + 2 * s.queue.length +
    s.stream.toList.length + 2 * c.order.length * s.delivered.toNat

theorem Inv.potential_le (c : Client) (h : Inv c s) : c.potential s ≤ burstBound c.order.length := by
  have hqueue := h.queue
  have hrounds : 2 * c.order.length * (c.order.length - s.followed.length) ≤ 2 * c.order.length * c.order.length :=
    Nat.mul_le_mul_left _ (Nat.sub_le ..)
  have hstream : s.stream.toList.length ≤ 1 := by cases s.stream <;> simp
  have hdelivered : 2 * c.order.length * s.delivered.toNat ≤ 2 * c.order.length := by
    cases s.delivered <;> simp
  unfold potential burstBound
  omega

theorem Inv.failed {id : String} {e : CallError} (h : Inv c s)
    (hfresh : (c.hint id e).all (· ∉ s.followed) = true) :
    Inv c (c.failed s id e) ∧ c.potential (c.failed s id e) ≤ c.potential s := by
  unfold Client.failed
  split
  · next hint hhint =>
    obtain ⟨-, hknown⟩ := Option.filter_eq_some_iff.mp hhint
    have hnodup : (hint :: s.followed).Nodup := List.nodup_cons.mpr ⟨by simpa [hhint] using hfresh, h.nodup⟩
    have hsub : hint :: s.followed ⊆ c.order := List.cons_subset.mpr ⟨(of_decide_eq_true hknown).2.2, h.known⟩
    have hlength : s.followed.length + 1 ≤ c.order.length := (hnodup.subperm hsub).length_le
    refine ⟨⟨c.length_candidateOrder .., hnodup, hsub⟩, ?_⟩
    -- the new round is paid by the hint
    have hqueue := c.length_candidateOrder s.lastLeader hint
    have hpaid : c.order.length - s.followed.length = c.order.length - (s.followed.length + 1) + 1 := by omega
    simp only [potential, round, List.length_cons, hpaid, Nat.mul_add, Bool.toNat_false, Nat.mul_zero]
    omega
  · split
    · exact ⟨h, Nat.le_refl _⟩
    · exact ⟨⟨h.queue, h.nodup, h.known⟩, Nat.le_refl _⟩

theorem Inv.next {id : String} {rest : List String} (h : Inv c s) (hqueue : s.queue = id :: rest) :
    Inv c { s with queue := rest } ∧ c.potential { s with queue := rest } + 2 = c.potential s := by
  have hlength := h.queue
  rw [hqueue, List.length_cons] at hlength
  refine ⟨⟨Nat.le_of_succ_le hlength, h.nodup, h.known⟩, ?_⟩
  simp only [potential, hqueue, List.length_cons]
  omega

theorem Inv.close {id : String} (h : Inv c s) (hstream : s.stream = some id) :
    Inv c { s with stream := none } ∧ c.potential { s with stream := none } + 1 = c.potential s := by
  refine ⟨⟨h.queue, h.nodup, h.known⟩, ?_⟩
  simp only [potential, hstream, Option.toList_some, Option.toList_none, List.length_singleton, List.length_nil]
  omega

/-- A step keeps the invariant. Within a burst each call is paid by the potential. -/
theorem Inv.step {a : Answer} (h : Inv c s) (hfresh : c.fresh s a = true)
    (hstep : c.step subscribes s a = some s') :
    Inv c s' ∧ (a.endsBurst = false → c.potential s' + a.isCall.toNat ≤ c.potential s) := by
  unfold Client.step at hstep
  split at hstep
  · cases hstep
  split at hstep
  case h_1 =>
    cases hstep
    exact ⟨⟨h.queue, h.nodup, h.known⟩, fun _ => Nat.le_refl _⟩
  case h_2 =>
    cases hstep
    exact ⟨⟨h.queue, h.nodup, h.known⟩, fun _ => Nat.le_refl _⟩
  case h_3 =>
    cases hstep
    exact ⟨⟨h.queue, List.nodup_nil, List.nil_subset _⟩, nofun⟩
  case h_4 id e hstream =>
    cases hstep
    obtain ⟨hclosed, hpaid⟩ := h.close hstream
    obtain ⟨hinv, hle⟩ := hclosed.failed (by simpa [fresh, hstream] using hfresh)
    exact ⟨hinv, fun _ => (Nat.succ_le_succ hle).trans hpaid.le⟩
  case h_5 id rest hstream hqueue =>
    cases hstep
    obtain ⟨hinv, hpaid⟩ := h.next hqueue
    exact ⟨hinv, fun _ => Nat.le_of_add_right_le hpaid.le⟩
  case h_6 id rest e hstream hqueue =>
    cases hstep
    obtain ⟨hnext, hpaid⟩ := h.next hqueue
    obtain ⟨hinv, hle⟩ := hnext.failed (by simpa [fresh, hstream, hqueue] using hfresh)
    refine ⟨hinv, fun _ => ?_⟩
    simp only [Answer.isCall, Bool.toNat_true]
    omega
  case h_7 id rest hstream hqueue =>
    obtain ⟨⟨hlength, hnodup, hknown⟩, hpaid⟩ := h.next hqueue
    cases subscribes with
    | false =>
      cases hstep
      exact ⟨⟨hlength, hnodup, hknown⟩, fun _ => Nat.le_of_succ_le hpaid.le⟩
    | true =>
      cases hstep
      refine ⟨⟨hlength, hnodup, hknown⟩, fun _ => ?_⟩
      rw [← hpaid]
      simp only [potential, setLeader, hstream, Option.toList_some, Option.toList_none, List.length_singleton,
        List.length_nil, Answer.isCall, Bool.toNat_true, if_true]
      omega
  case h_8 hstream hqueue =>
    split at hstep
    · cases hstep
    · cases hstep
      exact ⟨⟨c.length_candidateOrder .., List.nodup_nil, List.nil_subset _⟩, nofun⟩
  case h_9 hstream hqueue =>
    split at hstep
    · next hdelivered =>
      cases hstep
      refine ⟨⟨c.length_candidateOrder .., h.nodup, h.known⟩, fun _ => ?_⟩
      have hlength := c.length_candidateOrder s.lastLeader s.preferred
      simp only [potential, round, hqueue, hdelivered, List.length_nil, Bool.toNat_true, Bool.toNat_false,
        Answer.isCall]
      omega
    · cases hstep
  case h_10 => cases hstep

/-- A burst has no more calls than its potential. -/
theorem Inv.burst {as : List Answer} (h : Inv c s) (hsteady : c.steady (c.step subscribes) s as = true)
    (hburst : ∀ a ∈ as, a.endsBurst = false) : as.countP Answer.isCall ≤ c.potential s := by
  induction as generalizing s with
  | nil => exact Nat.zero_le _
  | cons a as ih =>
    simp only [steady, Bool.and_eq_true, Option.any_eq_true] at hsteady
    obtain ⟨hfresh, s', hstep, hrest⟩ := hsteady
    obtain ⟨hinv, hpaid⟩ := h.step hfresh hstep
    have hcalls := ih hinv hrest fun b hb => hburst b (List.mem_cons_of_mem a hb)
    have hcall := hpaid (hburst a List.mem_cons_self)
    rw [List.countP_cons]
    have htoNat : (if a.isCall then 1 else 0) = a.isCall.toNat := by cases a.isCall <;> rfl
    omega

/-- In a run of one of the loops in which no hint is followed again before a wait or a
    message, the calls between two of them are bounded by the number of peers. -/
theorem bursts_bounded (c : Client) {loop : Loop → Answer → Option Loop}
    (hloop : loop = c.withLeaderRetry ∨ loop = c.runSubscription) (lastLeader : String)
    {before burst : List Answer} (hsteady : c.steady loop (c.start lastLeader) (before ++ burst) = true)
    (hburst : ∀ a ∈ burst, a.endsBurst = false) :
    burst.countP Answer.isCall ≤ burstBound c.order.length := by
  obtain ⟨subscribes, rfl⟩ : ∃ subscribes, loop = c.step subscribes :=
    hloop.elim (fun h => ⟨false, h⟩) fun h => ⟨true, h⟩
  have hinit : Inv c (c.start lastLeader) :=
    ⟨c.length_candidateOrder .., List.nodup_nil, List.nil_subset _⟩
  generalize c.start lastLeader = s at hsteady hinit
  induction before generalizing s with
  | nil => exact (hinit.burst hsteady hburst).trans hinit.potential_le
  | cons a as ih =>
    simp only [List.cons_append, steady, Bool.and_eq_true, Option.any_eq_true] at hsteady
    obtain ⟨hfresh, s', hstep, hrest⟩ := hsteady
    exact ih s' hrest (hinit.step hfresh hstep).1

end Client

/-- Two peers. -/
def pair : Client := ⟨["a", "b"], by decide, by decide⟩

/-- A peer that is not the leader names another one. -/
def names (id : String) : Answer := .fail ⟨.failedPrecondition, some id⟩

theorem bursts_bounded_named_once :
    let burst := [names "b", .ok, .fail ⟨.unavailable, none⟩]
    pair.steady pair.runSubscription (pair.start "") ([] ++ burst) = true ∧
      burst.countP Answer.isCall ≤ burstBound 2 := by
  intro burst
  have hsteady : pair.steady pair.runSubscription (pair.start "") ([] ++ burst) = true := by decide
  exact ⟨hsteady, Client.bursts_bounded pair (.inr rfl) "" hsteady (by decide)⟩

/-- A burst of the loop can have any number of calls. -/
def Client.Unbounded (c : Client) (loop : Loop → Answer → Option Loop) : Prop :=
  ∀ n, ∃ burst s, Client.run loop (c.start "") burst = some s ∧ (∀ a ∈ burst, a.endsBurst = false) ∧
    n ≤ burst.countP Answer.isCall

theorem pair_unbounded (subscribes : Bool) : pair.Unbounded (pair.step subscribes) := by
  intro n
  -- after two hints the round starts again with the first peer
  have hround : ∀ s : Loop, s.queue = ["a", "b"] → s.stream = none → s.returned = false →
      ∃ burst s', Client.run (pair.step subscribes) s burst = some s' ∧ (∀ a ∈ burst, a.endsBurst = false) ∧
        n ≤ burst.countP Answer.isCall := by
    induction n with
    | zero => exact fun s _ _ _ => ⟨[], s, rfl, nofun, Nat.zero_le _⟩
    | succ n ih =>
      rintro ⟨lastLeader, preferred, queue, stream, delivered, returned, followed⟩ rfl rfl rfl
      obtain ⟨burst, s', hrun, hburst, hcalls⟩ :=
        ih ⟨lastLeader, "a", ["a", "b"], none, false, false, "a" :: "b" :: followed⟩ rfl rfl rfl
      refine ⟨names "b" :: names "a" :: burst, s', hrun, ?_, ?_⟩
      · simpa [names, Answer.endsBurst] using hburst
      · simp only [List.countP_cons, names, Answer.isCall, if_true]
        omega
  exact hround (pair.start "") rfl rfl rfl

/-- Two peers that name each other make both loops call for ever without a wait. -/
theorem burst_without_end :
    pair.Unbounded pair.withLeaderRetry ∧ pair.Unbounded pair.runSubscription :=
  ⟨pair_unbounded false, pair_unbounded true⟩

end ArbiterCore.LeaderRetry
